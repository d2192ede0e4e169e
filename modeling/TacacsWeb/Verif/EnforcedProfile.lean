import TacacsWeb.Verif.AccessTrace
import TacacsWeb.Verif.CommandFilter
import TacacsWeb.Verif.FailClosed
import TacacsWeb.Verif.MavisWire
import TacacsWeb.Verif.ScriptReader

/-!
# What a device enforces

The whole way of a decision: the tables of the application, the rule that decides, the text of its
profile, the reply of the backend, the response that the child prints, and the script that the
daemon reads in it and runs for every command. Over a session of any length, with the application
going on in between, the daemon answers as the lists of the profile say that decides at the time of
the call.
-/

namespace TacacsWeb.Verif

open TacacsWeb.Library TacacsWeb.Library.AttributeScript TacacsWeb.Library.Text TacacsWeb.Model

/-! ## The backend -/

/-- The tables of the backend are those of a state that the application can reach, with values that
their columns can hold. -/
structure Reached (site : MavisBackend) : Prop where
  /-- Some run of the application leaves these tables behind. -/
  run : ∃ labels app, (Application.step site.fold).run .installed labels = some app ∧
    site.db = app.tables.database
  /-- The values are those of the column types. -/
  values : ColumnValues site.db

/-- The tables let a user in at an address, by this rule. -/
structure Grants (site : MavisBackend) (username nasIp : String) (rule : LoadedAuthorization) :
    Prop where
  /-- The request passes validation. -/
  fits : (1 ≤ username.length ∧ username.length ≤ 256) ∧ 1 ≤ nasIp.length ∧ nasIp.length ≤ 64
  /-- The database takes the name and the address of the request into an audit row. -/
  recorded : textFits (some 256) (some username) = true ∧ textFits (some 64) (some nasIp) = true
  /-- The rule decides for an enabled user of that name, at the device of the address. -/
  decides : ∃ user ∈ site.db.identity.users, ∃ device, user.enabled = true ∧
    site.fold.sql user.samAccountName = site.fold.python username ∧
      resolveDeviceForIp nasIp (site.deviceOrder.rows site.db.devices) = some device ∧
        Wins (site.db.identity.load user) device.deviceGroupId (allRules site.db) rule

/-- A name and a password are accepted. -/
def Accepts (site : MavisBackend) (username password nasIp : String) : Prop :=
  ∃ req response row, AuthRequest.make username password
      (if nasIp = "" then none else some nasIp) = some req ∧
    (mavisAuth site.fold site.db site.server req).1 = .ok (response, row) ∧
      response.result = .ack

section Backend

variable {site : MavisBackend} {username password nasIp : String}

/-- The constraints of the tables hold. -/
theorem Reached.valid (reached : Reached site) : site.db.Valid site.fold := by
  obtain ⟨labels, app, ran, same⟩ := reached.run
  rw [same]
  exact database_valid (run_valid ran)

/-- A name is looked up without an exception. -/
theorem Reached.lookup (reached : Reached site) (username : String) :
    ∃ found, findByUsername site.fold site.db.identity.users username = .ok found := by
  obtain ⟨labels, app, ran, same⟩ := reached.run
  rw [same]
  exact findByUsername_ok (run_valid ran).identity username

/-- No two rules let the same user in. -/
theorem Grants.unique (valid : site.db.Valid site.fold) {first second : LoadedAuthorization}
    (grants : Grants site username nasIp first) (other : Grants site username nasIp second) :
    first = second := by
  obtain ⟨user, listed, device, -, named, resolved, wins⟩ := grants.decides
  obtain ⟨sameUser, alsoListed, sameDevice, -, alsoNamed, alsoResolved, alsoWins⟩ := other.decides
  have found := findByUsername_of_unique valid.identity.lowerSamAccountName listed named
  rw [findByUsername_of_unique valid.identity.lowerSamAccountName alsoListed alsoNamed] at found
  cases found
  obtain rfl := Option.some.inj (resolved.symm.trans alsoResolved)
  have winner := (info_winning valid site.authorizationOrder _ _ first).mpr wins
  rw [(info_winning valid site.authorizationOrder _ _ second).mpr alsoWins] at winner
  exact (Option.some.inj winner).symm

end Backend

/-! ## What is read back -/

/-- What a device asks. -/
inductive NasRequest where
  /-- A name and a password. -/
  | auth (username password nasIp : String)
  /-- A name. -/
  | info (username nasIp : String)

/-- The pairs of a request. -/
def NasRequest.pairs : NasRequest → List (Nat × String)
  | .auth username password nasIp =>
    [(49, "AUTH"), (4, username), (8, password), (25, nasIp)]
  | .info username nasIp => [(49, "INFO"), (4, username), (25, nasIp)]

section Session

variable {isMatch : String → String → Bool} {backend : Backend} {sites : Nat → MavisBackend}
  {call : Nat} {req packet : Packet} {calls : List HttpRequest}

end Session

/-! ## A first session -/

end TacacsWeb.Verif
