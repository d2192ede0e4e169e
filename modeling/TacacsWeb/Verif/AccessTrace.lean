import TacacsWeb.Verif.AuditReplay
import TacacsWeb.Verif.Constraints
import TacacsWeb.Verif.InfoAgreement
import TacacsWeb.Verif.ResolutionOrder
import TacacsWeb.Verif.RegexLiterals

/-!
# Every access can be accounted for

When a device is told to let a user in, the decision rests on rows of the database, and the audit
log tells who put each of them there: the device, its device group, the profile and the
authorization were created by an account that had logged in before, and the log has no deletion of
any of them. The handler has an answer in every state that the application can reach.
-/

namespace TacacsWeb.Verif

open TacacsWeb.Library TacacsWeb.Library.UnitOfWork TacacsWeb.Model

/-- The log tells who created a target, who had logged in before, and reports no deletion of it. -/
structure Traced (log : List AuditLog) (target : Target) : Prop where
  /-- The creation. -/
  created : ∃ before row after, log = before ++ row :: after ∧ SaysCreated target row ∧
    RecordsLogin before (actorOfRow row)
  /-- It has not been deleted. -/
  lasting : ¬Deleted log target

/-- What an access rests on. -/
structure AccessGrounds (fold : CaseFolding) (tables : AdminTables) (req : InfoRequest)
    (response : InfoResponse) (user : User) (device : Device) (rule : LoadedAuthorization) :
    Prop where
  /-- The user is known and enabled. -/
  known : user ∈ tables.identity.users ∧ user.enabled = true ∧
    fold.sql user.samAccountName = fold.python req.username
  /-- The device is known. -/
  resolved : device ∈ tables.devices
  /-- The rule decides among all that there are. -/
  decides : Wins (tables.identity.load user) device.deviceGroupId (allRules tables.database) rule
  /-- The log records the rule as it is. -/
  granted : Granted tables.auditLog rule.toAuthorization
  /-- What the device is told is the profile of the rule. -/
  profile : response.profile = some (renderTacprofile rule.privilegeProfile)
  /-- The device, its device group, the profile and the rule are traced. -/
  traced : ∀ target ∈ [Target.device device.id, .deviceGroup device.deviceGroupId,
    .privilegeProfile rule.privilegeProfileId, .authorization rule.id],
      Traced tables.auditLog target

section Trace

variable {fold : CaseFolding} {app : Application}

/-- The creation of a target needs a session. -/
theorem createdAction_session (target : Target) : createdAction target ∉ sessionlessActions := by
  cases target <;> simp [createdAction, sessionlessActions]

/-- What is there is traced. -/
theorem traced_of_listed (backed : Backed app) (replayed : AuditReplayed app) {target : Target}
    (listed : target.Listed app.tables) : Traced app.tables.auditLog target := by
  obtain ⟨⟨row, recorded, told⟩, lasting⟩ := Replayed.listed replayed listed
  obtain ⟨before, after, split⟩ := List.append_of_mem recorded
  refine ⟨⟨before, row, after, split, told, ?_⟩, lasting⟩
  refine backed.log before row after split ?_
  rw [told.action]
  exact createdAction_session target

/-- The tables of a reachable state are a valid database. -/
theorem database_valid (valid : app.tables.Valid fold) : app.tables.database.Valid fold :=
  ⟨valid.identity, valid.privilegeProfileId, valid.authorizationId, valid.authorizationProfile⟩

/-- An acceptance has an enabled user, a device and a rule that decides. -/
theorem resolveInfo_ack {db : Database} {deviceOrder : RowOrder Device}
    {authorizationOrder : RowOrder Authorization} {req : InfoRequest} {found : Option User}
    (accepted : (resolveInfo db deviceOrder authorizationOrder req found).response.result = .ack) :
    ∃ user device rule, found = some user ∧ user.enabled = true ∧
      resolveDeviceForIp req.nasIp (deviceOrder.rows db.devices) = some device ∧
        (evaluateForUser (db.identity.load user) device.deviceGroupId
          (db.selectAuthorizations authorizationOrder fun auth =>
            auth.deviceGroupId = device.deviceGroupId)).winning = some rule ∧
          (resolveInfo db deviceOrder authorizationOrder req found).response.profile =
            some (renderTacprofile rule.privilegeProfile) := by
  cases found with
  | none => cases accepted
  | some user =>
    cases enabled : user.enabled with
    | false => simp [resolveInfo, enabled] at accepted
    | true =>
      cases resolved : resolveDeviceForIp req.nasIp (deviceOrder.rows db.devices) with
      | none => simp [resolveInfo, enabled, resolved] at accepted
      | some device =>
        rw [resolveInfo_response enabled resolved] at accepted ⊢
        cases winner : (evaluateForUser (db.identity.load user) device.deviceGroupId
          (db.selectAuthorizations authorizationOrder fun auth =>
            auth.deviceGroupId = device.deviceGroupId)).winning with
        | none =>
          rw [winner] at accepted
          cases accepted
        | some rule => exact ⟨user, device, rule, rfl, enabled, rfl, winner, rfl⟩

/-- In every run of a new installation, every request of the info endpoint is answered with its
audit row, unless the database does not take the row, and an answer that lets the user in rests on
an enabled user, on a device and on the rule that decides, each of which the audit log traces to an
account that had logged in before it created the row. -/
theorem access_traced {labels : List (ApplicationHost fold × ApplicationEvent)}
    (ran : (Application.step fold).run .installed labels = some app) (deviceOrder : RowOrder Device)
    (authorizationOrder : RowOrder Authorization) (req : InfoRequest) :
    ∃ response row,
      informed fold app.tables app.sequences deviceOrder authorizationOrder req =
        committedAnswer app.tables row response ∧
      row.actorUsernameSnapshot = req.username ∧ row.clientIp = some req.nasIp ∧
      (row.action = .tacacsAuthzSucceeded ↔ response.result = .ack) ∧
      (response.result = .ack → ∃ user device rule,
        resolveDeviceForIp req.nasIp (deviceOrder.rows app.tables.devices) = some device ∧
          AccessGrounds fold app.tables req response user device rule) := by
  have valid : app.tables.Valid fold := run_valid ran
  have accounted : AccountedFor app.tables := Replayed.toAccountedFor (run_replayed ran)
  have database := database_valid valid
  obtain ⟨found, looked⟩ := findByUsername_ok valid.identity req.username
  have answered := @informed_of_found fold app.tables app.sequences deviceOrder authorizationOrder
    req found looked
  refine ⟨_, _, answered, rfl, rfl, infoAudit_action_iff, fun accepted => ?_⟩
  obtain ⟨user, device, rule, same, enabled, resolved, winner, told⟩ := resolveInfo_ack accepted
  subst same
  have wins := (info_winning database authorizationOrder _ _ rule).mp winner
  have listed : rule.toAuthorization ∈ app.tables.authorizations :=
    (mem_allRules.mp wins.1.1).1
  have stored : device ∈ app.tables.devices :=
    (deviceOrder.perm _).mem_iff.mp (mem_of_resolveDeviceForIp resolved)
  have trace : ∀ {target : Target}, target.Listed app.tables →
      Traced app.tables.auditLog target :=
    fun present => traced_of_listed (run_backed ran) (run_replayed ran) present
  refine ⟨user, device, rule, resolved, ?_⟩
  exact {
    known := ⟨(findByUsername_some looked).1, enabled, (findByUsername_some looked).2⟩
    resolved := stored
    decides := wins
    granted := ((accounted.authorizations _).mp listed).1
    profile := told
    traced := by
      intro target about
      simp only [List.mem_cons, List.not_mem_nil, or_false] at about
      rcases about with same | same | same | same
      · rw [same]
        exact trace ⟨device, stored, rfl⟩
      · rw [same]
        exact trace (valid.deviceGroup device stored)
      · rw [same]
        exact trace (valid.authorizationProfile _ listed)
      · rw [same]
        exact trace ⟨_, listed, rfl⟩ }

end Trace

/-! ## A first access -/

/-- The site with a directory of two accounts. -/
def siteWithDirectory : ApplicationHost .ascii :=
  { siteAtWork with
    admin := { hostAtWork with
      sync := hostOf swapped
      dumps := fun _ => "[\"dc=corp\"]" }
    folding := rfl }

/-- The address of the directory. -/
def directoryUrl : LdapSettingsUpdate where
  url := "ldaps://dc1.corp"
  urlLength := by decide
  urlScheme := by decide

/-- A cadence that may be set. -/
theorem hourly_minimum : cadenceMinSeconds ≤ 3600 := by decide

/-- The digits of the cadence. -/
theorem hourly_digits : (3600 : Int).natAbs.repr.length ≤ 4300 := by decide

/-- The sample directory has a base DN. -/
theorem oneBaseDn : ["dc=corp"] ≠ [] := List.cons_ne_nil _ _

/-- The account of the sync may be given. -/
theorem syncBindDn_length : 1 ≤ "cn=sync,dc=corp".length ∧ "cn=sync,dc=corp".length ≤ 1024 := by
  decide

/-- The password of that account may be given. -/
theorem syncPassword_length : ∀ value ∈ some "secret", value.length ≤ 1024 := by decide

/-- Where the directory is searched. -/
def directorySearch : LdapSyncUpdate where
  bindDn := "cn=sync,dc=corp"
  bindPassword := some "secret"
  baseDns := ["dc=corp"]
  userFilter := none
  cadenceSeconds := 3600
  enabled := true
  bindDnLength := syncBindDn_length
  bindPasswordLength := syncPassword_length
  baseDnsGiven := oneBaseDn
  userFilterLength := undescribed_length
  cadenceMinimum := hourly_minimum
  cadenceDigits := hourly_digits

/-- A request of the local admin: the session check, and the handler. -/
def adminRequest (operation : AuditedOperation) :
    List (ApplicationHost .ascii × ApplicationEvent) :=
  [(siteWithDirectory, .authenticate 60 (some sampleToken.value) browser),
    (siteWithDirectory, .perform (.audited operation) [])]

/-- The directory is configured and read, and one of its users gets read-only access to a switch. -/
def firstAccess : List (ApplicationHost .ascii × ApplicationEvent) :=
  firstLogin ++ adminRequest (.put adminCaller (.ldap directoryUrl)) ++
    adminRequest (.put adminCaller (.ldapSync directorySearch)) ++
    [(siteWithDirectory, .tick ⟨70, 70, 70, 71⟩)] ++
    adminRequest (.request adminCaller (.createDeviceGroup
      ⟨"core", none, coreName_length, undescribed_length⟩)) ++
    adminRequest (.request adminCaller (.createPrivilegeProfile (readOnly "idletime" "5"))) ++
    adminRequest (.request adminCaller (.createDevice hostForm)) ++
    adminRequest (.request adminCaller (.createAuthorization ⟨.user 1, 1, 1⟩))

/-- The application after that. -/
def afterFirstAccess : Application :=
  ((Application.step .ascii).run .installed firstAccess).getD .installed

/-- The name of the user may be asked for. -/
theorem evaName_length : 1 ≤ "Eva".length ∧ "Eva".length ≤ 256 := by decide

/-- The address of the switch may be asked for. -/
theorem evaNasIp_length : 1 ≤ "10.0.0.1".length ∧ "10.0.0.1".length ≤ 64 := by decide

/-- A user of the directory, whose name is typed with a capital, asks for access to the switch. -/
def evaAsks : InfoRequest where
  username := "Eva"
  nasIp := "10.0.0.1"
  usernameLength := evaName_length
  nasIpLength := evaNasIp_length

/-- She gets it, and it can be accounted for. -/
theorem access_traced_first : ∃ response row,
    informed .ascii afterFirstAccess.tables afterFirstAccess.sequences (.asStored Device)
        (.asStored Authorization) evaAsks =
      (⟨withAudit afterFirstAccess.tables row, [.audit row]⟩, .answered response) ∧
      response.result = .ack ∧ ∃ user device rule,
        resolveDeviceForIp evaAsks.nasIp
            ((RowOrder.asStored Device).rows afterFirstAccess.tables.devices) = some device ∧
          AccessGrounds .ascii afterFirstAccess.tables evaAsks response user device rule := by
  have ran : (Application.step .ascii).run .installed firstAccess = some afterFirstAccess := rfl
  have accepted : (match (informed .ascii afterFirstAccess.tables afterFirstAccess.sequences
      (.asStored Device) (.asStored Authorization) evaAsks).2 with
    | .answered response => some response.result
    | _ => none) = some .ack := by decide +kernel
  obtain ⟨response, row, answered, -, -, -, grounds⟩ :=
    access_traced ran (.asStored Device) (.asStored Authorization) evaAsks
  rw [answered] at accepted
  by_cases fits : row.fits = true
  · rw [committedAnswer, if_pos fits] at answered accepted
    have ack : response.result = .ack := Option.some.inj accepted
    exact ⟨response, row, answered, ack, grounds ack⟩
  · rw [committedAnswer, if_neg fits] at accepted
    cases accepted

end TacacsWeb.Verif
