import TacacsWeb.Library.StagedChanges
import TacacsWeb.Model.Application
import TacacsWeb.Verif.AuditedTogether

/-!
# What a task leaves behind

A handler that changes a resource commits nothing, or one change with the audit row that documents
it; wherever it is cut short, there is no third outcome. Any other task leaves the resources alone
and adds audit rows that are not about the creation or the deletion of one. Every audit row of a
handler names its caller.
-/

namespace TacacsWeb.Verif

open TacacsWeb.Library TacacsWeb.Library.UnitOfWork TacacsWeb.Model

/-! ## Identities -/

/-- Who acts: the name and the role at that time, the method of the login, and the account. -/
structure Actor where
  /-- The name. -/
  username : String
  /-- The role. -/
  role : String
  /-- How the actor was authenticated. -/
  authMethod : String
  /-- The account, when it is known. -/
  actorId : Option Nat
deriving DecidableEq

/-- The actor that an audit row names. -/
def actorOfRow (row : AuditLog) : Actor :=
  ⟨row.actorUsernameSnapshot, row.actorRole, row.authMethod, row.actorId⟩

/-- The actor of a caller. -/
def actorOfCaller (ctx : SessionContext) : Actor :=
  ⟨ctx.username, ctx.role, ctx.authMethod, ctx.actorId⟩

/-- The actions that need no session: logins, MAVIS requests and the command line. -/
def sessionlessActions : List AuditAction :=
  [.authLoginSucceeded, .authLoginFailed, .tacacsAuthnSucceeded, .tacacsAuthnFailed,
    .tacacsAuthzSucceeded, .tacacsAuthzFailed, .localAdminBootstrapped, .localAdminPasswordReset]

/-- A row about something that a caller did. -/
structure ByCaller (ctx : SessionContext) (row : AuditLog) : Prop where
  /-- It names the caller. -/
  actor : actorOfRow row = actorOfCaller ctx
  /-- It needed a session. -/
  action : row.action ∉ sessionlessActions

/-! ## The life of a resource -/

/-- The action of a creation. -/
def createdAction : Target → AuditAction
  | .device _ => .deviceCreated
  | .deviceGroup _ => .deviceGroupCreated
  | .privilegeProfile _ => .privilegeProfileCreated
  | .authorization _ => .authorizationCreated

/-- The action of a deletion. -/
def deletedAction : Target → AuditAction
  | .device _ => .deviceDeleted
  | .deviceGroup _ => .deviceGroupDeleted
  | .privilegeProfile _ => .privilegeProfileDeleted
  | .authorization _ => .authorizationDeleted

/-- The actions of a creation or a deletion. -/
def lifecycleActions : List AuditAction :=
  [.deviceCreated, .deviceGroupCreated, .privilegeProfileCreated, .authorizationCreated,
    .deviceDeleted, .deviceGroupDeleted, .privilegeProfileDeleted, .authorizationDeleted]

/-- The row says that a target was created. -/
structure SaysCreated (target : Target) (row : AuditLog) : Prop where
  /-- The action. -/
  action : row.action = createdAction target
  /-- The table. -/
  targetType : row.targetType = some target.kind
  /-- The id. -/
  targetId : row.targetId = some target.id

/-- The row says that a target was deleted. -/
structure SaysDeleted (target : Target) (row : AuditLog) : Prop where
  /-- The action. -/
  action : row.action = deletedAction target
  /-- The table. -/
  targetType : row.targetType = some target.kind
  /-- The id. -/
  targetId : row.targetId = some target.id

/-- A change with the id of its row, and the audit row that documents it. A deletion is of a row
that is there, and the summary of a new authorization describes it. -/
inductive Documents (tables : AdminTables) : AdminChange → Nat → AuditLog → Prop where
  /-- A new device. -/
  | insertDevice {device : Device} {rowId : Nat} {row : AuditLog}
    (recorded : SaysCreated (.device rowId) row) :
    Documents tables (.device (.insert device)) rowId row
  /-- An edited device. -/
  | updateDevice {deviceId rowId : Nat} {columns : DeviceColumns} {row : AuditLog}
    (silent : row.action ∉ lifecycleActions) :
    Documents tables (.device (.update deviceId columns)) rowId row
  /-- A deleted device. -/
  | deleteDevice {deviceId rowId : Nat} {row : AuditLog}
    (recorded : SaysDeleted (.device deviceId) row)
    (listed : (Target.device deviceId).Listed tables) :
    Documents tables (.device (.delete deviceId)) rowId row
  /-- A new device group. -/
  | insertDeviceGroup {name : String} {description : Option String} {rowId : Nat} {row : AuditLog}
    (recorded : SaysCreated (.deviceGroup rowId) row) :
    Documents tables (.insertDeviceGroup name description) rowId row
  /-- An edited device group. -/
  | replaceDeviceGroup {group : DeviceGroup} {rowId : Nat} {row : AuditLog}
    (silent : row.action ∉ lifecycleActions) :
    Documents tables (.replaceDeviceGroup group) rowId row
  /-- A deleted device group. -/
  | deleteDeviceGroup {groupId rowId : Nat} {row : AuditLog}
    (recorded : SaysDeleted (.deviceGroup groupId) row)
    (listed : (Target.deviceGroup groupId).Listed tables) :
    Documents tables (.deleteDeviceGroup groupId) rowId row
  /-- A new profile. -/
  | insertPrivilegeProfile {payload : PrivilegeProfileCreate} {rowId : Nat} {row : AuditLog}
    (recorded : SaysCreated (.privilegeProfile rowId) row) :
    Documents tables (.insertPrivilegeProfile payload) rowId row
  /-- An edited profile. -/
  | replacePrivilegeProfile {profile : PrivilegeProfile} {rowId : Nat} {row : AuditLog}
    (silent : row.action ∉ lifecycleActions) :
    Documents tables (.replacePrivilegeProfile profile) rowId row
  /-- A deleted profile. -/
  | deletePrivilegeProfile {profileId rowId : Nat} {row : AuditLog}
    (recorded : SaysDeleted (.privilegeProfile profileId) row)
    (listed : (Target.privilegeProfile profileId).Listed tables) :
    Documents tables (.deletePrivilegeProfile profileId) rowId row
  /-- A new authorization. -/
  | insertAuthorization {authorization : Authorization} {rowId : Nat} {row : AuditLog}
    (recorded : SaysCreated (.authorization rowId) row)
    (described : row.summary = some (authorizationSummary authorization)) :
    Documents tables (.insertAuthorization authorization) rowId row
  /-- A deleted authorization. -/
  | deleteAuthorization {authorizationId rowId : Nat} {row : AuditLog}
    (recorded : SaysDeleted (.authorization authorizationId) row)
    (listed : (Target.authorization authorizationId).Listed tables) :
    Documents tables (.deleteAuthorization authorizationId) rowId row

/-- What a handler that changes a resource may leave committed. -/
inductive CommitsDocumented (ctx : SessionContext) (tables : AdminTables)
    (sequences : AdminSequences) : Version AdminTables AdminChange → Prop where
  /-- Nothing. -/
  | untouched : CommitsDocumented ctx tables sequences ⟨tables, []⟩
  /-- A change and the audit row that documents it, in either order. -/
  | changed {journal : List AdminChange} {change : AdminChange} {after : AdminTables}
    {rowId : Nat} {moved : AdminSequences} {row : AuditLog}
    (both : journal.Perm [change, .audit row])
    (taken : adminEngine change tables sequences = (.ok (after, rowId), moved))
    (documents : Documents tables change rowId row) (own : ByCaller ctx row) :
    CommitsDocumented ctx tables sequences ⟨withAudit after row, journal⟩

/-! ## Handlers of resources -/

section Resources

variable {ctx : SessionContext} {tables : AdminTables} {sequences : AdminSequences}

/-- A row of `append_crud` is the caller's. -/
theorem appendCrud_byCaller {action : AuditAction} (session : action ∉ sessionlessActions)
    (kind : String) (rowId : Nat) (summary : Option String) :
    ByCaller ctx (appendCrud ctx action kind rowId summary) := ⟨rfl, session⟩

/-- The condition as one on the states that a script can end in. -/
abbrev EndsDocumented (ctx : SessionContext) (script : AdminScript) (tables : AdminTables)
    (sequences : AdminSequences) : Prop :=
  script.Ensures adminEngine (fun version _ => CommitsDocumented ctx tables sequences version)
    (Session.start tables sequences)

/-- A handler that flushes its change first documents it by its audit row. -/
theorem flushThenAudit_documented {change : AdminChange} {conflict : String}
    {audit : Nat → AuditLog} {status : Nat}
    (documents : ∀ rowId, Documents tables change rowId (audit rowId))
    (own : ∀ rowId, ByCaller ctx (audit rowId)) :
    EndsDocumented ctx (flushThenAudit change conflict audit status) tables sequences := by
  apply flushThenAudit_ensures .untouched .untouched .untouched
  intro after rowId moved taken
  have committed := CommitsDocumented.changed (.refl _) taken (documents rowId) (own rowId)
  exact ⟨committed, committed⟩

/-- A handler without a flush. -/
theorem auditThenCommit_documented {change : AdminChange} {row : AuditLog} {handled : AdminScript}
    {status : Nat} (plain : change.isAudit = false)
    (documents : ∀ rowId, Documents tables change rowId row) (own : ByCaller ctx row)
    (refused : ∀ moved, handled.Ensures adminEngine
      (fun version _ => CommitsDocumented ctx tables sequences version)
        (Session.start tables moved)) :
    EndsDocumented ctx (auditThenCommit change row handled status) tables sequences := by
  apply auditThenCommit_ensures plain .untouched .untouched refused
  intro after rowId moved taken
  have committed := CommitsDocumented.changed (.swap _ _ _) taken (documents rowId) own
  exact ⟨committed, committed⟩

/-- A lookup whose missing row is refused. -/
theorem sessionGet_documented {Row : Type} {rows : List Row} {key : Row → Nat} {id : Int}
    {status : Nat} {detail : Option String} {found : Row → AdminScript}
    (present : ∀ row ∈ rows, EndsDocumented ctx (found row) tables sequences) :
    EndsDocumented ctx (sessionGet rows key id (refuse status detail) found) tables sequences :=
  sessionGet_ensures .untouched .untouched fun row listed _ => present row listed

/-- A handler that prepares its change documents it if what follows does for that change. -/
theorem whenPrepared_documented {prepared : Except HttpError PreparedChange}
    {next : PreparedChange → AdminScript}
    (ready : ∀ change, prepared = .ok change →
      EndsDocumented ctx (next change) tables sequences) :
    EndsDocumented ctx (whenPrepared prepared next) tables sequences :=
  whenPrepared_ensures (fun _ _ => .untouched) ready

/-- The creation of a device is documented. -/
theorem createDevice_documented (payload : DeviceCreate) :
    EndsDocumented ctx (createDeviceHandler ctx payload) tables sequences := by
  refine ⟨.untouched, .untouched, ?_⟩
  split
  · apply whenPrepared_documented
    intro change prepared
    obtain ⟨group, -, same⟩ := map_eq_ok.mp prepared
    subst same
    have session : AuditAction.deviceCreated ∉ sessionlessActions := by decide
    exact flushThenAudit_documented (fun rowId => .insertDevice ⟨rfl, rfl, rfl⟩)
      fun rowId => appendCrud_byCaller session _ _ _
  · exact .untouched

/-- The edit of a device is documented. -/
theorem updateDevice_documented (printable : Char → Bool) (deviceId : Int)
    (payload : DeviceUpdate) :
    EndsDocumented ctx (updateDeviceHandler printable ctx deviceId payload) tables sequences := by
  refine ⟨.untouched, .untouched, ?_⟩
  apply sessionGet_documented
  intro loaded _
  split
  · apply whenPrepared_documented
    intro change prepared
    obtain ⟨row, -, -, action, columns, write⟩ := updateDevice_ok printable prepared
    rw [write]
    apply flushThenAudit_documented
    · intro rowId
      have silent : (change.audit ctx rowId).action ∉ lifecycleActions := by
        change change.action ∉ lifecycleActions
        rw [action]
        decide
      exact .updateDevice silent
    · intro rowId
      refine appendCrud_byCaller ?_ _ _ _
      rw [action]
      decide
  · exact .untouched

/-- Changing a loaded device in one commit with its audit row. -/
theorem changeDevice_documented (deviceId : Int)
    (prepared : DeviceTables → Nat → Except HttpError PreparedChange) (status : Nat)
    (does : ∀ row ∈ tables.devices, ∀ change,
      prepared (tables.deviceTables sequences) row.id = .ok change →
        change.action ∉ sessionlessActions ∧
          ∀ rowId, Documents tables (.device change.write) rowId (change.audit ctx row.id)) :
    EndsDocumented ctx (changeDeviceHandler ctx deviceId prepared status) tables sequences := by
  refine ⟨.untouched, .untouched, ?_⟩
  apply sessionGet_documented
  intro row listed
  apply whenPrepared_documented
  intro change ready
  obtain ⟨session, documents⟩ := does row listed change ready
  exact auditThenCommit_documented rfl documents (appendCrud_byCaller session _ _ _)
    fun _ => .untouched

/-- The deletion of a device is documented. -/
theorem deleteDevice_documented (deviceId : Int) :
    EndsDocumented ctx (deleteDeviceHandler ctx deviceId) tables sequences := by
  apply changeDevice_documented
  intro row listed change ready
  obtain ⟨loaded, same, made⟩ := getDevice_map_ok ready
  subst made
  have session : AuditAction.deviceDeleted ∉ sessionlessActions := by decide
  refine ⟨session, fun rowId => ?_⟩
  rw [same]
  exact .deleteDevice ⟨rfl, rfl, rfl⟩ ⟨row, listed, rfl⟩

/-- Rotating the secret of a device. -/
theorem rotateSecret_documented (deviceId : Int) (payload : DeviceRotateSecret) :
    EndsDocumented ctx (rotateSecretHandler ctx deviceId payload) tables sequences := by
  apply changeDevice_documented
  intro row _ change ready
  obtain ⟨loaded, -, made⟩ := getDevice_map_ok ready
  subst made
  have session : AuditAction.deviceSecretRotated ∉ sessionlessActions := by decide
  have silent : AuditAction.deviceSecretRotated ∉ lifecycleActions := by decide
  exact ⟨session, fun rowId => .updateDevice silent⟩

/-- Retiring the previous secret of a device. -/
theorem retirePreviousSecret_documented (deviceId : Int) (now : Nat) :
    EndsDocumented ctx (retirePreviousSecretHandler ctx deviceId now) tables sequences := by
  apply changeDevice_documented
  intro row _ change ready
  obtain ⟨loaded, -, made⟩ := getDevice_map_ok ready
  subst made
  have session : AuditAction.devicePreviousRetired ∉ sessionlessActions := by decide
  have silent : AuditAction.devicePreviousRetired ∉ lifecycleActions := by decide
  exact ⟨session, fun rowId => .updateDevice silent⟩

/-- Creating an authorization once its principal is found. -/
theorem authorize_documented (seen : AdminTables) (payload : AuthorizationCreate)
    (row : Nat → Nat → Authorization) :
    EndsDocumented ctx (authorize ctx seen payload row) tables sequences := by
  apply sessionGet_documented
  intro group _
  apply sessionGet_documented
  intro profile _
  apply flushThenAudit_documented
  · intro rowId
    exact .insertAuthorization ⟨rfl, rfl, rfl⟩ rfl
  · intro rowId
    exact appendCrud_byCaller (by decide) _ _ _

/-- Every request on a resource. -/
theorem request_documented (printable : Char → Bool) (request : AdminRequest) :
    EndsDocumented ctx (request.handler printable ctx) tables sequences := by
  cases request with
  | createDevice payload => exact createDevice_documented payload
  | updateDevice deviceId payload => exact updateDevice_documented printable deviceId payload
  | deleteDevice deviceId => exact deleteDevice_documented deviceId
  | rotateSecret deviceId payload => exact rotateSecret_documented deviceId payload
  | retirePreviousSecret deviceId now => exact retirePreviousSecret_documented deviceId now
  | createDeviceGroup payload =>
    apply flushThenAudit_documented
    · intro rowId
      exact .insertDeviceGroup ⟨rfl, rfl, rfl⟩
    · intro rowId
      exact appendCrud_byCaller (by decide) _ _ _
  | updateDeviceGroup groupId payload =>
    refine ⟨.untouched, .untouched, ?_⟩
    apply sessionGet_documented
    intro row _
    have silent : AuditAction.deviceGroupUpdated ∉ lifecycleActions := by decide
    exact flushThenAudit_documented (fun rowId => .replaceDeviceGroup silent)
      fun rowId => appendCrud_byCaller (by decide) _ _ _
  | createPrivilegeProfile payload =>
    apply flushThenAudit_documented
    · intro rowId
      exact .insertPrivilegeProfile ⟨rfl, rfl, rfl⟩
    · intro rowId
      exact appendCrud_byCaller (by decide) _ _ _
  | updatePrivilegeProfile profileId payload =>
    refine ⟨.untouched, .untouched, ?_⟩
    apply sessionGet_documented
    intro row _
    have silent : AuditAction.privilegeProfileUpdated ∉ lifecycleActions := by decide
    exact flushThenAudit_documented (fun rowId => .replacePrivilegeProfile silent)
      fun rowId => appendCrud_byCaller (by decide) _ _ _
  | deletePrivilegeProfile profileId =>
    refine ⟨.untouched, .untouched, ?_⟩
    apply sessionGet_documented
    intro row listed
    apply auditThenCommit_documented rfl
    · intro rowId
      exact .deletePrivilegeProfile ⟨rfl, rfl, rfl⟩ ⟨row, listed, rfl⟩
    · exact appendCrud_byCaller (by decide) _ _ _
    · exact fun _ => .untouched
  | createAuthorization payload =>
    obtain ⟨principal, deviceGroupId, privilegeProfileId⟩ := payload
    cases principal with
    | user userId =>
      refine ⟨.untouched, .untouched, ?_⟩
      apply sessionGet_documented
      intro user _
      exact authorize_documented tables ⟨.user userId, deviceGroupId, privilegeProfileId⟩ _
    | adGroup adGroupId =>
      refine ⟨.untouched, .untouched, ?_⟩
      apply sessionGet_documented
      intro adGroup _
      exact authorize_documented tables ⟨.adGroup adGroupId, deviceGroupId, privilegeProfileId⟩ _
  | deleteAuthorization authzId =>
    refine ⟨.untouched, .untouched, ?_⟩
    apply sessionGet_documented
    intro row listed
    apply auditThenCommit_documented rfl
    · intro rowId
      exact .deleteAuthorization ⟨rfl, rfl, rfl⟩ ⟨row, listed, rfl⟩
    · exact appendCrud_byCaller (by decide) _ _ _
    · exact fun _ => .untouched

/-- Deleting a device group. -/
theorem deleteDeviceGroup_documented (deviceGroupId : Int) :
    EndsDocumented ctx (deleteDeviceGroupHandler ctx deviceGroupId) tables sequences := by
  refine ⟨.untouched, .untouched, ?_⟩
  apply sessionGet_documented
  intro row listed
  apply auditThenCommit_documented rfl
  · intro rowId
    exact .deleteDeviceGroup ⟨rfl, rfl, rfl⟩ ⟨row, listed, rfl⟩
  · exact appendCrud_byCaller (by decide) _ _ _
  · exact fun _ => .untouched

end Resources

/-! ## Other tasks -/

/-- The parts of the database that steps write, beside the audit log. -/
inductive Area where
  /-- Devices, device groups, profiles and authorizations. -/
  | resources
  /-- The references of accounting records. -/
  | accounting
  /-- `user`, `ad_group` and `user_ad_group`. -/
  | identity
  /-- `system_setting` and `system_secret`. -/
  | settings
  /-- `ldap.last_sync_result`. -/
  | syncResult
  /-- `local_admin`. -/
  | localAdmin
deriving DecidableEq

/-- The parts that handlers of resources write: a device that is deleted is taken out of the
accounting records. -/
def resourceAreas : List Area := [.resources, .accounting]

/-- The parts that a change writes, none for the audit log. -/
def AdminChange.areas : AdminChange → List Area
  | .device _ | .insertDeviceGroup _ _ | .replaceDeviceGroup _ | .deleteDeviceGroup _
  | .insertPrivilegeProfile _ | .replacePrivilegeProfile _ | .deletePrivilegeProfile _
  | .insertAuthorization _ | .deleteAuthorization _ => resourceAreas
  | .systemSetting _ _ | .systemSecret _ _ => [.settings]
  | .identity _ => [.identity]
  | .lastSyncResult _ => [.syncResult]
  | .localAdmin _ _ _ _ => [.localAdmin]
  | .audit _ => []

/-- The resources are the same. -/
structure ResourcesKept (before after : AdminTables) : Prop where
  /-- `device`. -/
  devices : after.devices = before.devices
  /-- `device_group`. -/
  deviceGroups : after.deviceGroups = before.deviceGroups
  /-- `privilege_profile`. -/
  privilegeProfiles : after.privilegeProfiles = before.privilegeProfiles
  /-- `authorization`. -/
  authorizations : after.authorizations = before.authorizations

/-- A part of the database is the same. -/
def Area.Same (before after : AdminTables) : Area → Prop
  | .resources => ResourcesKept before after
  | .accounting => after.accountingDeviceIds = before.accountingDeviceIds
  | .identity => after.identity = before.identity
  | .settings => after.systemSettings = before.systemSettings ∧
      after.systemSecrets = before.systemSecrets
  | .syncResult => after.lastSyncResult = before.lastSyncResult
  | .localAdmin => after.localAdmin = before.localAdmin

/-- A part that nobody has written is the same. -/
theorem Area.Same.refl (tables : AdminTables) (area : Area) : area.Same tables tables := by
  cases area with
  | resources => exact ⟨rfl, rfl, rfl, rfl⟩
  | settings => exact ⟨rfl, rfl⟩
  | _ => exact rfl

/-- A part that stays the same twice is the same. -/
theorem Area.Same.trans {before middle after : AdminTables} {area : Area}
    (first : area.Same before middle) (second : area.Same middle after) :
    area.Same before after := by
  cases area with
  | resources =>
    exact ⟨second.devices.trans first.devices, second.deviceGroups.trans first.deviceGroups,
      second.privilegeProfiles.trans first.privilegeProfiles,
      second.authorizations.trans first.authorizations⟩
  | settings => exact ⟨second.1.trans first.1, second.2.trans first.2⟩
  | _ => exact Eq.trans second first

/-- A change within some parts of the database, and an audit row only if it meets a condition. -/
structure Within (areas : List Area) (holds : AuditLog → Prop) (change : AdminChange) : Prop where
  /-- The parts. -/
  written : ∀ area ∈ AdminChange.areas change, area ∈ areas
  /-- An audit row meets the condition. -/
  audit : ∀ row, change = .audit row → holds row

/-- Nothing is different outside some parts of the database, but that the log has rows more that
meet a condition. -/
structure KeptOutside (areas : List Area) (holds : AuditLog → Prop) (before after : AdminTables) :
    Prop where
  /-- The other parts. -/
  others : ∀ area, area ∉ areas → area.Same before after
  /-- The audit log. -/
  auditLog : ∃ rows, after.auditLog = before.auditLog ++ rows ∧ ∀ row ∈ rows, holds row

section Others

variable {areas : List Area} {holds : AuditLog → Prop} {tables : AdminTables}

/-- An audit row that meets the condition. -/
theorem within_audit {row : AuditLog} (met : holds row) : Within areas holds (.audit row) := by
  refine ⟨fun area written => absurd written List.not_mem_nil, fun other same => ?_⟩
  rw [← AdminChange.audit.inj same]
  exact met

/-- Any other change in a part that may be written. -/
theorem within_area {change : AdminChange} {area : Area}
    (written : AdminChange.areas change = [area]) (allowed : area ∈ areas) :
    Within areas holds change := by
  refine ⟨fun other listed => ?_, fun row same => ?_⟩
  · rw [written] at listed
    rw [List.mem_singleton.mp listed]
    exact allowed
  · rw [same] at written
    cases written

/-- A change writes its own part of the database. -/
theorem adminEngine_same {change : AdminChange} {after : AdminTables} {rowId : Nat}
    {sequences moved : AdminSequences}
    (taken : adminEngine change tables sequences = (.ok (after, rowId), moved)) {area : Area}
    (other : area ∉ AdminChange.areas change) : area.Same tables after := by
  have answer := congrArg Prod.fst taken
  cases change with
  | device write =>
    cases write with
    | insert device =>
      obtain ⟨-, rfl, -⟩ := statement_eq_ok answer
      cases area <;> first
        | exact absurd List.mem_cons_self other
        | exact absurd (List.mem_cons_of_mem _ List.mem_cons_self) other
        | exact ⟨rfl, rfl⟩
        | exact rfl
    | update deviceId columns =>
      simp only [adminEngine, writeDevice] at answer
      split at answer
      · cases answer
        exact Area.Same.refl tables area
      · obtain ⟨-, rfl, -⟩ := statement_eq_ok answer
        cases area <;> first
        | exact absurd List.mem_cons_self other
        | exact absurd (List.mem_cons_of_mem _ List.mem_cons_self) other
        | exact ⟨rfl, rfl⟩
        | exact rfl
    | delete deviceId =>
      cases answer
      cases area <;> first
        | exact absurd List.mem_cons_self other
        | exact absurd (List.mem_cons_of_mem _ List.mem_cons_self) other
        | exact ⟨rfl, rfl⟩
        | exact rfl
  | deleteAuthorization authorizationId =>
    cases answer
    cases area <;> first
        | exact absurd List.mem_cons_self other
        | exact absurd (List.mem_cons_of_mem _ List.mem_cons_self) other
        | exact ⟨rfl, rfl⟩
        | exact rfl
  | deleteDeviceGroup groupId =>
    change deleteDeviceGroupRow tables groupId = .ok (after, rowId) at answer
    unfold deleteDeviceGroupRow at answer
    obtain ⟨-, rfl, -⟩ := statement_eq_ok answer
    cases area <;> first
        | exact absurd List.mem_cons_self other
        | exact absurd (List.mem_cons_of_mem _ List.mem_cons_self) other
        | exact ⟨rfl, rfl⟩
        | exact rfl
  | deletePrivilegeProfile profileId =>
    change deletePrivilegeProfileRow tables profileId = .ok (after, rowId) at answer
    unfold deletePrivilegeProfileRow at answer
    obtain ⟨-, rfl, -⟩ := statement_eq_ok answer
    cases area <;> first
        | exact absurd List.mem_cons_self other
        | exact absurd (List.mem_cons_of_mem _ List.mem_cons_self) other
        | exact ⟨rfl, rfl⟩
        | exact rfl
  | localAdmin username hash cidr lastLoginAt =>
    simp only [adminEngine, putLocalAdmin] at answer
    split at answer
    · obtain ⟨-, rfl, -⟩ := statement_eq_ok answer
      cases area <;> first
        | exact absurd List.mem_cons_self other
        | exact ⟨rfl, rfl, rfl, rfl⟩
        | exact ⟨rfl, rfl⟩
        | exact rfl
    · cases answer
  | systemSecret key value | identity identity | lastSyncResult summary =>
    cases answer
    cases area <;> first
      | exact absurd List.mem_cons_self other
      | exact ⟨rfl, rfl, rfl, rfl⟩
      | exact ⟨rfl, rfl⟩
      | exact rfl
  | _ =>
    obtain ⟨-, rfl, -⟩ := statement_eq_ok answer
    cases area <;> first
      | exact absurd List.mem_cons_self other
      | exact ⟨rfl, rfl, rfl, rfl⟩
      | exact ⟨rfl, rfl⟩
      | exact rfl

/-- A change within some parts of the database keeps the others. -/
theorem adminEngine_within {change : AdminChange} {after : AdminTables} {rowId : Nat}
    {sequences moved : AdminSequences} (within : Within areas holds change)
    (taken : adminEngine change tables sequences = (.ok (after, rowId), moved)) :
    KeptOutside areas holds tables after := by
  refine ⟨fun area outside => adminEngine_same taken ?_, ?_⟩
  · exact fun written => outside (within.written area written)
  · cases audits : change.isAudit with
    | false =>
      refine ⟨[], ?_, fun _ listed => absurd listed List.not_mem_nil⟩
      rw [adminEngine_auditLog audits taken, List.append_nil]
    | true =>
      cases change with
      | audit row =>
        obtain ⟨-, same, -⟩ := statement_eq_ok (congrArg Prod.fst taken)
        rw [same]
        refine ⟨[row], rfl, fun other listed => ?_⟩
        rw [List.mem_singleton.mp listed]
        exact within.audit row rfl
      | _ => cases audits

/-- Two changes within the parts, one after the other, are a change within them. -/
theorem KeptOutside.trans {middle after : AdminTables}
    (first : KeptOutside areas holds tables middle)
    (second : KeptOutside areas holds middle after) : KeptOutside areas holds tables after := by
  obtain ⟨kept, rows, log, all⟩ := first
  obtain ⟨keptToo, more, logToo, allToo⟩ := second
  refine ⟨?_, rows ++ more, ?_, ?_⟩
  · exact fun area outside => (kept area outside).trans (keptToo area outside)
  · rw [logToo, log, List.append_assoc]
  · intro row listed
    rcases List.mem_append.mp listed with earlier | later
    · exact all row earlier
    · exact allToo row later

/-- Tables that stay as they are are kept outside any parts. -/
theorem KeptOutside.refl (tables : AdminTables) : KeptOutside areas holds tables tables :=
  ⟨fun area _ => Area.Same.refl tables area, [], (List.append_nil _).symm, fun _ listed =>
    absurd listed List.not_mem_nil⟩

/-- A script that stages only changes within some parts keeps the others, wherever it ends. -/
theorem perform_keptOutside {Answer : Type} {app : Application}
    {script : Script AdminTables AdminSequences AdminChange Answer}
    (stages : script.Stages (Within areas holds)) (plan : List UnitOfWork.Outcome) :
    KeptOutside areas holds app.tables (app.perform script plan).tables := by
  have kept : ∀ (version : Version AdminTables AdminChange) change moved after id next,
      Within areas holds change → KeptOutside areas holds app.tables version.tables →
        adminEngine change version.tables moved = (.ok (after, id), next) →
          KeptOutside areas holds app.tables after := by
    intro version change moved after id next within before taken
    exact before.trans (adminEngine_within within taken)
  let stays : Version AdminTables AdminChange → Prop := fun version =>
    KeptOutside areas holds app.tables version.tables
  have start : stays ⟨app.tables, []⟩ := KeptOutside.refl app.tables
  exact Script.run_keeps_staged kept stages app.sequences start plan

/-- A change in a commit of its own is allowed if it meets the condition and what follows does. -/
theorem commitOne_stages {Answer : Type} {allowed : AdminChange → Prop} {change : AdminChange}
    {rest : Script AdminTables AdminSequences AdminChange Answer} (met : allowed change)
    (later : rest.Stages allowed) :
    (Script.stage change (.commit .raise rest)).Stages allowed := ⟨met, True.intro, later⟩

/-- Writes that are only staged. -/
theorem writeEach_stages {allowed : AdminChange → Prop} {writes : List AdminChange}
    {last : AdminScript} (all : ∀ change ∈ writes, allowed change) (rest : last.Stages allowed) :
    (writeEach writes last).Stages allowed := by
  induction writes with
  | nil => exact rest
  | cons change writes ih =>
    intro seen sequences
    have later : ∀ other ∈ writes, allowed other :=
      fun other listed => all other (List.mem_cons_of_mem _ listed)
    exact ⟨all change List.mem_cons_self, ih later⟩

/-- A PUT stages its writes and its audit row, and nothing else. -/
theorem putSettings_stages {allowed : AdminChange → Prop} {ctx : SessionContext}
    {writes : List AdminChange} {audit : AuditLog} (all : ∀ change ∈ writes, allowed change)
    (audited : allowed (.audit audit)) : (putSettings ctx writes audit).Stages allowed := by
  unfold putSettings
  split
  · trivial
  · apply writeEach_stages all
    exact ⟨audited, trivial, trivial⟩

/-- A row about something that a caller did, but neither created nor deleted. -/
structure RoutineOf (ctx : SessionContext) (row : AuditLog) : Prop where
  /-- It is about the caller. -/
  own : ByCaller ctx row
  /-- No resource was created or deleted. -/
  silent : row.action ∉ lifecycleActions

/-- A row that needed no session. -/
def Sessionless (row : AuditLog) : Prop := row.action ∈ sessionlessActions

/-- The parts that a caller may write as an admin. -/
def adminAreas (ctx : SessionContext) (areas : List Area) : List Area :=
  if ctx.role = "admin" then areas else []

/-- Only settings and secrets are written. -/
def WritesSettings (writes : List AdminChange) : Prop :=
  ∀ change ∈ writes, AdminChange.areas change = [.settings]

/-- Writes of settings are within the settings. -/
theorem within_of_writesSettings {writes : List AdminChange} (settings : WritesSettings writes) :
    ∀ change ∈ writes, Within [.settings] holds change :=
  fun change listed => within_area (settings change listed) (List.mem_singleton_self _)

variable {ctx : SessionContext}

/-- A row of settings is the caller's. -/
theorem settingsAudit_routine {action : AuditAction} (session : action ∉ sessionlessActions)
    (silent : action ∉ lifecycleActions) (targetType summary : String) :
    Within areas (RoutineOf ctx) (.audit (settingsAudit ctx action targetType summary)) :=
  within_audit ⟨⟨rfl, session⟩, silent⟩

/-- A handler that refuses all but admins writes what it writes for an admin, or nothing. -/
theorem adminAreas_stages {script : AdminScript}
    (forAdmin : ctx.role = "admin" → script.Stages (Within areas holds))
    (refused : ctx.role ≠ "admin" → script = refuse 403 (some "admin_required")) :
    script.Stages (Within (adminAreas ctx areas) holds) := by
  unfold adminAreas
  split
  · rename_i role
    exact forAdmin role
  · rename_i role
    rw [refused role]
    trivial

/-- Every PUT of settings writes settings and its own audit row at most, and only for an admin. -/
theorem put_stages (host : AdminHost) (settings : SettingsPut) :
    (settings.script host ctx).Stages (Within (adminAreas ctx [.settings]) (RoutineOf ctx)) := by
  apply adminAreas_stages
  · intro _
    cases settings with
    | ldap payload =>
      apply putSettings_stages
      · apply within_of_writesSettings
        simp [WritesSettings, AdminChange.areas]
      · exact settingsAudit_routine (by decide) (by decide) _ _
    | web payload =>
      apply putSettings_stages
      · apply within_of_writesSettings
        simp [WritesSettings, AdminChange.areas]
      · exact settingsAudit_routine (by decide) (by decide) _ _
    | ldapSync payload =>
      apply putSettings_stages
      · apply within_of_writesSettings
        intro change listed
        rcases List.mem_append.mp listed with setting | secret
        · simp only [List.mem_cons, List.not_mem_nil, or_false] at setting
          rcases setting with same | same | same | same | same <;> rw [same] <;> rfl
        · split at secret
          · rw [List.mem_singleton.mp secret]
            rfl
          · exact absurd secret List.not_mem_nil
      · exact settingsAudit_routine (by decide) (by decide) _ _
    | samlIdpMetadata xml =>
      change (importIdpMetadata host.parseIdpMetadata ctx xml).Stages _
      unfold importIdpMetadata
      split
      · trivial
      · split
        · trivial
        · apply putSettings_stages
          · apply within_of_writesSettings
            simp [WritesSettings, AdminChange.areas]
          · exact settingsAudit_routine (by decide) (by decide) _ _
    | samlMapping payload =>
      apply putSettings_stages
      · apply within_of_writesSettings
        simp [WritesSettings, AdminChange.areas]
      · exact settingsAudit_routine (by decide) (by decide) _ _
    | syslog payload =>
      have given : ∀ key value, ∀ change ∈ secretWrite key value,
          AdminChange.areas change = [.settings] := by
        intro key value change listed
        cases value with
        | none => exact absurd listed List.not_mem_nil
        | some text =>
          rw [List.mem_singleton.mp listed]
          rfl
      apply putSettings_stages
      · apply within_of_writesSettings
        intro change listed
        simp only [List.mem_append] at listed
        rcases listed with ((setting | ca) | cert) | key
        · revert change
          simp [AdminChange.areas]
        · exact given _ _ change ca
        · exact given _ _ change cert
        · exact given _ _ change key
      · exact settingsAudit_routine (by decide) (by decide) _ _
  · intro role
    cases settings with
    | samlIdpMetadata xml => exact if_pos role
    | _ => exact if_pos role

/-- A row of a manual sync run is the caller's. -/
theorem runAudit_routine {action : AuditAction} (session : action ∉ sessionlessActions)
    (silent : action ∉ lifecycleActions) (summary : String) :
    Within areas (RoutineOf ctx) (.audit (runAudit ctx action summary)) :=
  within_audit ⟨⟨rfl, session⟩, silent⟩

/-- The manual sync run writes identities, its result and its own audit rows at most, and only for
an admin. -/
theorem runNow_stages (host : SyncHost) (times : RunTimes) :
    (runNowScript host ctx times).Stages
      (Within (adminAreas ctx [.identity, .syncResult]) (RoutineOf ctx)) := by
  apply adminAreas_stages
  · intro _
    unfold runNowScript
    split
    · trivial
    · intro tables _
      beta_reduce
      split
      · apply commitOne_stages (runAudit_routine (by decide) (by decide) _)
        trivial
      · trivial
      · apply commitOne_stages (within_area rfl List.mem_cons_self)
        intro _ _
        apply commitOne_stages
          (within_area rfl (List.mem_cons_of_mem _ (List.mem_singleton_self _)))
        apply commitOne_stages (runAudit_routine (by decide) (by decide) _)
        trivial
  · exact fun role => if_pos role

/-- The command writes the local admin at most, and audit rows of actions that need no session. -/
theorem bootstrapAdmin_stages (hashPassword : String → String) (username password : String)
    (resetPassword : Bool) :
    (bootstrapAdmin hashPassword username password resetPassword).Stages
      (Within [.localAdmin] Sessionless) := by
  have created : Within [.localAdmin] Sessionless
      (.audit (cliAuditRow .localAdminBootstrapped username "initial setup")) := by
    apply within_audit
    change AuditAction.localAdminBootstrapped ∈ sessionlessActions
    decide
  have reset : Within [.localAdmin] Sessionless
      (.audit (cliAuditRow .localAdminPasswordReset username "password reset via CLI")) := by
    apply within_audit
    change AuditAction.localAdminPasswordReset ∈ sessionlessActions
    decide
  have admin : Area.localAdmin ∈ [Area.localAdmin] := List.mem_singleton_self _
  intro tables _
  beta_reduce
  split
  · apply commitOne_stages (within_area rfl admin)
    apply commitOne_stages created
    trivial
  · split
    · trivial
    · apply commitOne_stages (within_area rfl admin)
      apply commitOne_stages reset
      trivial

/-- Storing a new keypair writes settings and its own audit row at most. -/
theorem storeKeypair_stages (tools : KeypairTools) (commonName : String) :
    (storeKeypair tools ctx commonName).Stages (Within [.settings] (RoutineOf ctx)) := by
  unfold storeKeypair
  split
  · trivial
  · apply putSettings_stages
    · apply within_of_writesSettings
      simp [WritesSettings, AdminChange.areas]
    · exact settingsAudit_routine (by decide) (by decide) _ _

/-- `POST /settings/saml/sp-keypair`. -/
theorem spKeypair_stages (environment : String) (tools : KeypairTools)
    (payload : SpKeypairRegenerate) :
    (regenerateSpKeypair environment tools ctx payload).Stages
      (Within (adminAreas ctx [.settings]) (RoutineOf ctx)) := by
  apply adminAreas_stages
  · intro _
    unfold regenerateSpKeypair
    split
    · trivial
    · split
      · exact storeKeypair_stages tools _
      · intro tables _
        beta_reduce
        split
        · trivial
        · split
          · trivial
          · exact storeKeypair_stages tools _
  · exact fun role => if_pos role

/-- `POST /admin/regenerate-nas-config`. -/
theorem regenerate_stages (sharedSecret hostsFile : String) (writable : Bool) :
    (regenerateHandler sharedSecret hostsFile writable ctx).Stages
      (Within [] (RoutineOf ctx)) := by
  unfold regenerateHandler
  split
  · trivial
  · intro tables _
    beta_reduce
    split
    · trivial
    · apply commitOne_stages (settingsAudit_routine (by decide) (by decide) _ _)
      trivial

/-- Replacing the certificate needs a session, and creates and deletes no resource. -/
theorem certificateAction_routine (request : TlsRequest Unit) :
    request.action ∉ sessionlessActions ∧ request.action ∉ lifecycleActions := by
  cases request <;> simp [TlsRequest.action, sessionlessActions, lifecycleActions]

/-- A request of maintenance writes settings and its own audit row at most, and only for an admin. -/
theorem maintenance_stages (host : SyncHost) (request : MaintenanceRequest) :
    (request.script host ctx).Stages (Within (adminAreas ctx [.settings]) (RoutineOf ctx)) := by
  have setting : ∀ key value, Within [.settings] (RoutineOf ctx) (.systemSetting key value) :=
    fun key value => within_area rfl (List.mem_singleton_self _)
  have one : ∀ key value, ∀ change ∈ [AdminChange.systemSetting key value],
      Within [.settings] (RoutineOf ctx) change := by
    intro key value change listed
    rw [List.mem_singleton.mp listed]
    exact setting key value
  apply adminAreas_stages
  · intro role
    cases request with
    | certificate asked ending =>
      show (recordCertificate ctx asked.action ending).Stages _
      unfold recordCertificate
      rw [if_neg (not_not.mpr role)]
      cases ending with
      | written source summary =>
        apply putSettings_stages (one _ _)
        obtain ⟨session, silent⟩ := certificateAction_routine asked
        exact settingsAudit_routine session silent _ _
      | _ => trivial
    | testLdapSync payload isDigit =>
      show (Model.testLdapSync isDigit host ctx payload).Stages _
      rw [Model.testLdapSync, if_neg (not_not.mpr role)]
      intro tables _
      beta_reduce
      split
      · trivial
      · dsimp only
        split
        · split
          · apply commitOne_stages (settingsAudit_routine (by decide) (by decide) _ _)
            trivial
          · trivial
          · apply commitOne_stages (settingsAudit_routine (by decide) (by decide) _ _)
            trivial
        · trivial
    | testSyslog site =>
      show (Model.testSyslog host.fold site ctx).Stages _
      rw [Model.testSyslog, if_neg (not_not.mpr role)]
      intro tables _
      dsimp only
      split
      · trivial
      · split
        all_goals
          apply commitOne_stages (settingsAudit_routine (by decide) (by decide) _ _)
          trivial
    | completeWizard certPresent =>
      show (Model.completeWizard host.fold certPresent ctx).Stages _
      rw [Model.completeWizard, if_neg (not_not.mpr role)]
      intro tables _
      beta_reduce
      split
      · trivial
      · exact putSettings_stages (one _ _) (settingsAudit_routine (by decide) (by decide) _ _)
    | reopenWizard =>
      show (Model.reopenWizard ctx).Stages _
      rw [Model.reopenWizard, if_neg (not_not.mpr role)]
      intro tables _
      beta_reduce
      split
      · trivial
      · exact putSettings_stages (one _ _) (settingsAudit_routine (by decide) (by decide) _ _)
  · intro role
    cases request <;> exact if_pos role

/-- A row of `mavis_auth` needs no session. -/
theorem authAudit_sessionless (req : AuthRequest) (user : Option User) (outcome : AuthOutcome) :
    Sessionless (authAudit req user outcome) := by
  unfold Sessionless authAudit
  dsimp only
  split <;> decide

/-- A row of `mavis_info` needs no session. -/
theorem infoAudit_sessionless (req : InfoRequest) (user : Option User) (resolved : ResolvedInfo) :
    Sessionless (infoAudit req user resolved) := by
  unfold Sessionless infoAudit
  dsimp only
  split <;> decide

/-- `POST /internal/mavis/auth`. -/
theorem mavisAuth_stages (fold : CaseFolding) (server : LdapServer) (req : AuthRequest) :
    (mavisAuthHandler fold server req).Stages (Within [] Sessionless) := by
  intro tables _
  beta_reduce
  split
  · trivial
  · intro seen _
    beta_reduce
    split
    · trivial
    · apply commitOne_stages (within_audit (authAudit_sessionless _ _ _))
      trivial

/-- `POST /internal/mavis/info`. -/
theorem mavisInfo_stages (fold : CaseFolding) (deviceOrder : RowOrder Device)
    (authorizationOrder : RowOrder Authorization) (req : InfoRequest) :
    (mavisInfoHandler fold deviceOrder authorizationOrder req).Stages
      (Within [] Sessionless) := by
  intro tables _
  beta_reduce
  split
  · trivial
  · intro seen _
    apply commitOne_stages (within_audit (infoAudit_sessionless _ _ _))
    trivial

end Others

/-! ## Tasks -/

/-- The parts that a task may write. All but the resources need an admin. -/
def ApplicationTask.areas : ApplicationTask → List Area
  | .audited (.request _ _) | .audited (.deleteDeviceGroup _ _) => resourceAreas
  | .audited (.put ctx _) | .spKeypair ctx _ _ | .maintain ctx _ => adminAreas ctx [.settings]
  | .audited (.runNow ctx _) => adminAreas ctx [.identity, .syncResult]
  | .audited (.bootstrapAdmin _ _ _) => [.localAdmin]
  | .regenerate _ _ => []

/-- What the task of a caller leaves behind. -/
theorem task_effect {fold : CaseFolding} (host : ApplicationHost fold) {task : ApplicationTask}
    {ctx : SessionContext} (caller : task.caller = some ctx) (app : Application)
    (plan : List UnitOfWork.Outcome) :
    (∃ version, CommitsDocumented ctx app.tables app.sequences version ∧
        ApplicationTask.areas task = resourceAreas ∧
          (app.perform (task.script host) plan).tables = version.tables) ∨
      Area.resources ∉ ApplicationTask.areas task ∧
        KeptOutside (ApplicationTask.areas task) (RoutineOf ctx) app.tables
          (app.perform (task.script host) plan).tables := by
  have apart : ∀ own : SessionContext, ∀ areas : List Area, Area.resources ∉ areas →
      Area.resources ∉ adminAreas own areas := by
    intro own areas absent
    unfold adminAreas
    split
    · exact absent
    · exact List.not_mem_nil
  cases task with
  | audited operation =>
    cases operation with
    | request own asked =>
      obtain rfl := Option.some.inj caller
      left
      exact ⟨_, Script.run_ensures (request_documented host.admin.printable asked) plan, rfl, rfl⟩
    | deleteDeviceGroup own deviceGroupId =>
      obtain rfl := Option.some.inj caller
      left
      exact ⟨_, Script.run_ensures (deleteDeviceGroup_documented deviceGroupId) plan, rfl, rfl⟩
    | put own settings =>
      obtain rfl := Option.some.inj caller
      right
      exact ⟨apart own _ (by decide), perform_keptOutside (put_stages host.admin settings) plan⟩
    | runNow own times =>
      obtain rfl := Option.some.inj caller
      right
      exact ⟨apart own _ (by decide),
        perform_keptOutside (runNow_stages host.admin.sync times) plan⟩
    | bootstrapAdmin username password resetPassword => cases caller
  | spKeypair own payload tools =>
    obtain rfl := Option.some.inj caller
    right
    exact ⟨apart own _ (by decide),
      perform_keptOutside (spKeypair_stages host.baseUrl tools payload) plan⟩
  | regenerate own writable =>
    obtain rfl := Option.some.inj caller
    right
    exact ⟨List.not_mem_nil,
      perform_keptOutside (regenerate_stages host.sharedSecret host.hostsFile writable) plan⟩
  | maintain own asked =>
    obtain rfl := Option.some.inj caller
    right
    exact ⟨apart own _ (by decide),
      perform_keptOutside (maintenance_stages host.admin.sync asked) plan⟩

/-- What the command leaves behind. -/
theorem command_effect {fold : CaseFolding} (host : ApplicationHost fold) {task : ApplicationTask}
    (command : task.caller = none) (app : Application) (plan : List UnitOfWork.Outcome) :
    KeptOutside [.localAdmin] Sessionless app.tables
      (app.perform (task.script host) plan).tables := by
  cases task with
  | audited operation =>
    cases operation with
    | bootstrapAdmin username password resetPassword =>
      exact perform_keptOutside
        (bootstrapAdmin_stages host.admin.hashPassword username password resetPassword) plan
    | _ => cases command
  | _ => cases command

end TacacsWeb.Verif
