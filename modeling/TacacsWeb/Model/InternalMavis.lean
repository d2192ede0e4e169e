import TacacsWeb.Model.Audit
import TacacsWeb.Model.DeviceResolution
import TacacsWeb.Model.MavisAuthn
import TacacsWeb.Model.Policy
import TacacsWeb.Model.ProfileRender

/-!
# The internal MAVIS endpoints

`app.api.internal_mavis`: `POST /internal/mavis/auth` and `POST /internal/mavis/info`. A
request carries the bounds that its validation enforces. A handler returns its response and
the audit row it commits; an error is an exception that the framework answers with a 500, be it of
a lookup, of the decision, or of the INSERT of an audit row with a value that its column does not
take.
-/

namespace TacacsWeb.Model

/-- `AuthRequest`. -/
structure AuthRequest where
  /-- The login name. -/
  username : String
  /-- The password to verify. -/
  password : String
  /-- The NAS address, sent by newer children. -/
  nasIp : Option String
  /-- `min_length=1, max_length=256`. -/
  usernameLength : 1 ≤ username.length ∧ username.length ≤ 256
  /-- `max_length=1024`. -/
  passwordLength : password.length ≤ 1024
  /-- `max_length=64`. -/
  nasIpLength : ∀ ip, nasIp = some ip → ip.length ≤ 64

/-- `AuthResponse`. -/
structure AuthResponse where
  /-- The verdict. -/
  result : AuthResult
  /-- Why, when the verdict is not an acceptance. -/
  reason : Option String
deriving DecidableEq

/-- `InfoRequest`. -/
structure InfoRequest where
  /-- The login name. -/
  username : String
  /-- The NAS address. -/
  nasIp : String
  /-- `min_length=1, max_length=256`. -/
  usernameLength : 1 ≤ username.length ∧ username.length ≤ 256
  /-- `min_length=1, max_length=64`. -/
  nasIpLength : 1 ≤ nasIp.length ∧ nasIp.length ≤ 64

/-- `InfoResponse`. -/
structure InfoResponse where
  /-- The verdict. -/
  result : AuthResult
  /-- Why, when the verdict is not an acceptance. -/
  reason : Option String
  /-- The rendered profile, when the verdict is an acceptance. -/
  profile : Option String
deriving DecidableEq

/-- The user whose login name equals the requested one after lower-casing both. -/
def findByUsername (fold : CaseFolding) (users : List User) (username : String) :
    Except Unit (Option User) :=
  scalarOneOrNone (users.filter fun user => fold.sql user.samAccountName = fold.python username)

/-- The audit row of `mavis_auth`. -/
def authAudit (req : AuthRequest) (user : Option User) (outcome : AuthOutcome) : AuditLog where
  actorId := user.map User.id
  actorUsernameSnapshot := req.username
  actorRole := "tacacs_user"
  authMethod := "tacacs"
  action := if outcome.result = .ack then .tacacsAuthnSucceeded else .tacacsAuthnFailed
  targetType := some "nas"
  targetId := none
  summary := if outcome.result = .ack then none else outcome.reason
  clientIp := req.nasIp
  userAgent := none

/-- `mavis_auth`. -/
def mavisAuth (fold : CaseFolding) (db : Database) (server : LdapServer) (req : AuthRequest) :
    WithBinds (Except Unit (AuthResponse × AuditLog)) :=
  match findByUsername fold db.identity.users req.username with
  | .error _ => (.error (), [])
  | .ok user =>
    match evaluate user (resolveLdapEndpoint fold db.systemSettings) req.password
        (verifyLdapPassword server) with
    | (.error _, binds) => (.error (), binds)
    | (.ok outcome, binds) =>
      let row := authAudit req user outcome
      (if row.fits then .ok (⟨outcome.result, outcome.reason⟩, row) else .error (), binds)

/-- What `_resolve_info` returns: the response, the audit reason, the target device and the
audit summary of an acceptance. -/
structure ResolvedInfo where
  /-- The response. -/
  response : InfoResponse
  /-- The reason put into the audit row of a refusal. -/
  reason : Option String
  /-- The device the address resolved to. -/
  targetId : Option Nat
  /-- The summary put into the audit row of an acceptance. -/
  summary : Option String

/-- `_resolve_info`, with the orders in which its two queries return their rows. -/
def resolveInfo (db : Database) (deviceOrder : RowOrder Device)
    (authorizationOrder : RowOrder Authorization) (req : InfoRequest) (user : Option User) :
    ResolvedInfo :=
  match user with
  | none => ⟨⟨.nfd, some "unknown_user", none⟩, some "unknown_user", none, none⟩
  | some user =>
    if !user.enabled then ⟨⟨.nak, some "user_disabled", none⟩, some "user_disabled", none, none⟩
    else match resolveDeviceForIp req.nasIp (deviceOrder.rows db.devices) with
      | none => ⟨⟨.nak, some "unknown_nas", none⟩, some "unknown_nas", none, none⟩
      | some device =>
        let authorizations := db.selectAuthorizations authorizationOrder fun auth =>
          auth.deviceGroupId = device.deviceGroupId
        let outcome := evaluateForUser (db.identity.load user) device.deviceGroupId authorizations
        match outcome.profile with
        | none =>
          ⟨⟨.nak, some "no_authorization", none⟩, some "no_authorization", some device.id, none⟩
        | some profile =>
          ⟨⟨.ack, none, some (renderTacprofile profile)⟩, none, some device.id,
            some ("device=" ++ device.name ++ ", profile=" ++ profile.name)⟩

/-- The audit row of `mavis_info`. -/
def infoAudit (req : InfoRequest) (user : Option User) (resolved : ResolvedInfo) : AuditLog where
  actorId := user.map User.id
  actorUsernameSnapshot := req.username
  actorRole := "tacacs_user"
  authMethod := "tacacs"
  action := if resolved.response.result = .ack then .tacacsAuthzSucceeded else .tacacsAuthzFailed
  targetType := if resolved.targetId.isSome then some "device" else some "nas"
  targetId := resolved.targetId
  summary := if resolved.response.result = .ack then resolved.summary else resolved.reason
  clientIp := some req.nasIp
  userAgent := none

/-- `mavis_info`. -/
def mavisInfo (fold : CaseFolding) (db : Database) (deviceOrder : RowOrder Device)
    (authorizationOrder : RowOrder Authorization) (req : InfoRequest) :
    Except Unit (InfoResponse × AuditLog) :=
  match findByUsername fold db.identity.users req.username with
  | .error _ => .error ()
  | .ok user =>
    let resolved := resolveInfo db deviceOrder authorizationOrder req user
    let row := infoAudit req user resolved
    if row.fits then .ok (resolved.response, row) else .error ()

/-! ## What the lookups return -/

/-- A found user is a row with the requested name. -/
theorem findByUsername_some {fold : CaseFolding} {users : List User} {username : String}
    {user : User} (found : findByUsername fold users username = .ok (some user)) :
    user ∈ users ∧ fold.sql user.samAccountName = fold.python username := by
  unfold findByUsername at found
  cases shape : users.filter fun user => fold.sql user.samAccountName = fold.python username with
  | nil => simp [shape, scalarOneOrNone] at found
  | cons first rest =>
    cases rest with
    | cons second others => simp [shape, scalarOneOrNone] at found
    | nil =>
      simp only [shape, scalarOneOrNone, Except.ok.injEq, Option.some.injEq] at found
      obtain rfl := found
      have listed : first ∈ users.filter fun user =>
          fold.sql user.samAccountName = fold.python username := by
        rw [shape]
        exact List.mem_cons_self
      simpa using listed

/-- Where lower-cased names are unique, the row with the requested name is found. -/
theorem findByUsername_of_unique {fold : CaseFolding} {users : List User} {username : String}
    {user : User} (unique : (users.map fun user => fold.sql user.samAccountName).Nodup)
    (listed : user ∈ users) (named : fold.sql user.samAccountName = fold.python username) :
    findByUsername fold users username = .ok (some user) := by
  have only : users.filter (fun other => fold.sql other.samAccountName = fold.python username) =
      [user] := by
    have alone : ∀ other ∈ users, fold.sql other.samAccountName = fold.python username →
        other = user := fun other present same =>
      List.inj_on_of_nodup_map unique present listed (same.trans named.symm)
    have distinct := (List.Nodup.of_map _ unique).filter
      fun other => decide (fold.sql other.samAccountName = fold.python username)
    refine List.perm_singleton.mp
      ((List.perm_ext_iff_of_nodup distinct (List.nodup_singleton _)).mpr fun other => ?_)
    simp only [List.mem_filter, decide_eq_true_eq, List.mem_singleton]
    constructor
    · exact fun found => alone other found.1 found.2
    · rintro rfl
      exact ⟨listed, named⟩
  rw [findByUsername, only]
  rfl

end TacacsWeb.Model
