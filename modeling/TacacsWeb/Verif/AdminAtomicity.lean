import TacacsWeb.Verif.AdminStatements

/-!
# Admin requests are all or nothing

A request that changes a resource ends in one of two states: the tables it found, or the tables
with its one row changed and its one audit row added. The handlers have two shapes, with a flush
before the commit and without; each shape gets one rule, and each handler supplies what its
statement does.
-/

namespace TacacsWeb.Verif

open TacacsWeb.Library TacacsWeb.Library.UnitOfWork TacacsWeb.Model

/-! ## The statement -/

/-- The response has a status from 400 to 499. -/
def IsClientError : Reply → Prop
  | .refusal error => 400 ≤ error.status ∧ error.status < 500
  | _ => False

/-- The response has a status from 200 to 299. -/
def IsSuccess : Reply → Prop
  | .response status => 200 ≤ status ∧ status < 300
  | _ => False

/-- What a request is for. -/
structure Purpose where
  /-- The action code. -/
  action : AuditAction
  /-- The table, as the audit log names it. -/
  kind : String
  /-- What happens to the row. -/
  effect : Effect
  /-- The id in the path. -/
  asked : Option Int

/-- What each request is for. -/
def purpose : AdminRequest → Purpose
  | .createDevice _ => ⟨.deviceCreated, "device", .added, none⟩
  | .updateDevice deviceId _ => ⟨.deviceUpdated, "device", .edited, some deviceId⟩
  | .deleteDevice deviceId => ⟨.deviceDeleted, "device", .removed, some deviceId⟩
  | .rotateSecret deviceId _ => ⟨.deviceSecretRotated, "device", .edited, some deviceId⟩
  | .retirePreviousSecret deviceId _ => ⟨.devicePreviousRetired, "device", .edited, some deviceId⟩
  | .createDeviceGroup _ => ⟨.deviceGroupCreated, "device_group", .added, none⟩
  | .updateDeviceGroup groupId _ => ⟨.deviceGroupUpdated, "device_group", .edited, some groupId⟩
  | .createPrivilegeProfile _ => ⟨.privilegeProfileCreated, "privilege_profile", .added, none⟩
  | .updatePrivilegeProfile profileId _ =>
    ⟨.privilegeProfileUpdated, "privilege_profile", .edited, some profileId⟩
  | .deletePrivilegeProfile profileId =>
    ⟨.privilegeProfileDeleted, "privilege_profile", .removed, some profileId⟩
  | .createAuthorization _ => ⟨.authorizationCreated, "authorization", .added, none⟩
  | .deleteAuthorization authzId =>
    ⟨.authorizationDeleted, "authorization", .removed, some authzId⟩

/-- The audit row of a change of a row. -/
structure Records (purpose : Purpose) (target : Target) (row : AuditLog) : Prop where
  /-- The action code is that of the request. -/
  action : row.action = purpose.action
  /-- The table. -/
  targetType : row.targetType = some purpose.kind
  /-- The id of the row. -/
  targetId : row.targetId = some target.id

/-- One row is changed as the request is meant to, and one audit row is added. -/
structure Applied (fold : CaseFolding) (purpose : Purpose) (before after : AdminTables)
    (target : Target) (row : AuditLog) : Prop where
  /-- The target is in the table of the request. -/
  kind : target.kind = purpose.kind
  /-- The target is the row the path names. -/
  asked : ∀ id ∈ purpose.asked, id = target.id
  /-- Nothing else is different but the audit log. -/
  others : target.others after = target.others before
  /-- What happened to the target. -/
  effect : purpose.effect.Holds target before after
  /-- Primary keys, unique columns and foreign keys. -/
  constraints : after.Valid fold
  /-- The audit log has one row more, behind all earlier ones. -/
  auditLog : after.auditLog = before.auditLog ++ [row]
  /-- What that row says. -/
  records : Records purpose target row

/-- A client error leaves the tables as they are; a success applies the request. -/
def AllOrNothing (fold : CaseFolding) (purpose : Purpose) (before : AdminTables)
    (version : Version AdminTables AdminChange) (ending : Ending Reply) : Prop :=
  ∀ reply, ending = .answered reply →
    (IsClientError reply → version.tables = before) ∧
      (IsSuccess reply → ∃ target row, Applied fold purpose before version.tables target row)

/-! ## The two shapes -/

section Shapes

variable {tables : AdminTables} {sequences : AdminSequences}
  {post : Version AdminTables AdminChange → Ending Reply → Prop}

/-- The tables with an audit row more. -/
def withAudit (tables : AdminTables) (row : AuditLog) : AdminTables :=
  { tables with auditLog := tables.auditLog ++ [row] }

/-- An audit row that is written is added to the log. -/
theorem apply_audit {session after : Session AdminTables AdminSequences AdminChange}
    {row : AuditLog} {id : Nat}
    (written : session.apply adminEngine (.audit row) = (.ok id, after)) :
    after = { session with working :=
      ⟨withAudit session.working.tables row, session.working.journal ++ [.audit row]⟩ } := by
  obtain ⟨changed, moved, taken, same⟩ := Session.apply_ok written
  have answer := congrArg Prod.fst taken
  have kept := congrArg Prod.snd taken
  obtain ⟨-, added, -⟩ := statement_eq_ok answer
  change session.sequences = moved at kept
  rw [same, added, ← kept]
  rfl

/-- Conditions on the states that a handler with a flush can end in. -/
theorem flushThenAudit_ensures {change : AdminChange} {conflict : String}
    {audit : Nat → AuditLog} {status : Nat}
    (raised : post ⟨tables, []⟩ .raised) (stopped : post ⟨tables, []⟩ .stopped)
    (refused : post ⟨tables, []⟩ (.answered (.refusal ⟨409, some conflict⟩)))
    (done : ∀ after rowId moved,
      adminEngine change tables sequences = (.ok (after, rowId), moved) →
        post ⟨withAudit after (audit rowId), [change, .audit (audit rowId)]⟩ .raised ∧
        post ⟨withAudit after (audit rowId), [change, .audit (audit rowId)]⟩
          (.answered (.response status))) :
    (flushThenAudit change conflict audit status).Ensures adminEngine post
      (Session.start tables sequences) := by
  refine ⟨raised, stopped, fun _ => refused, fun rowId written step => ?_⟩
  rw [Session.write_of_unstaged rfl] at step
  obtain ⟨after, moved, taken, same⟩ := Session.apply_ok step
  subst same
  refine ⟨raised, stopped, fun _ => raised, fun committed commits => ?_⟩
  obtain ⟨flushed, writes, durable⟩ := Session.commit_ok commits
  obtain ⟨auditId, next, first, rest⟩ := Session.applyAll_cons_ok writes
  have ended : next = flushed := congrArg Prod.snd rest
  rw [durable, ← ended, apply_audit first]
  exact done after rowId moved taken

/-- A statement does not look at the audit log. -/
theorem statement_withAudit {fits broken : Bool} {written audited : AdminTables} {row : AuditLog}
    {id : Nat} (added : audited = withAudit written row) :
    statement fits broken audited id =
      (statement fits broken written id).map fun answer => (withAudit answer.1 row, answer.2) := by
  rw [added]
  cases fits <;> cases broken <;> rfl

/-- A change is taken behind a new audit row as it is without one. -/
theorem adminEngine_withAudit {change : AdminChange} {tables after : AdminTables}
    {sequences moved : AdminSequences} {rowId : Nat} {row : AuditLog}
    (plain : change.isAudit = false)
    (taken : adminEngine change (withAudit tables row) sequences = (.ok (after, rowId), moved)) :
    ∃ written, adminEngine change tables sequences = (.ok (written, rowId), moved) ∧
      after = withAudit written row := by
  have moves : adminEngine change (withAudit tables row) sequences =
      ((adminEngine change tables sequences).1.map fun answer => (withAudit answer.1 row, answer.2),
        (adminEngine change tables sequences).2) := by
    cases change with
    | audit other => cases plain
    | device write =>
      cases write with
      | insert device => exact Prod.ext (statement_withAudit rfl) rfl
      | update deviceId columns =>
        by_cases empty : columns.isEmpty = true
        · simp only [adminEngine, writeDevice, if_pos empty]
          rfl
        · simp only [adminEngine, writeDevice, if_neg empty]
          exact Prod.ext (statement_withAudit rfl) rfl
      | delete deviceId => rfl
    | localAdmin username hash cidr lastLoginAt =>
      by_cases short : username.length ≤ 64
      · simp only [adminEngine, putLocalAdmin, dif_pos short]
        exact Prod.ext (statement_withAudit rfl) rfl
      · simp only [adminEngine, putLocalAdmin, dif_neg short]
        rfl
    | deleteDeviceGroup groupId =>
      simp only [adminEngine, deleteDeviceGroupRow]
      exact Prod.ext (@statement_withAudit true _ _ _ row _ rfl) rfl
    | deletePrivilegeProfile profileId =>
      simp only [adminEngine, deletePrivilegeProfileRow]
      exact Prod.ext (@statement_withAudit true _ _ _ row _ rfl) rfl
    | deleteAuthorization authorizationId => rfl
    | systemSecret key value => rfl
    | identity tables => rfl
    | lastSyncResult summary => rfl
    | _ => exact Prod.ext (statement_withAudit rfl) rfl
  rw [moves] at taken
  have answer := congrArg Prod.fst taken
  obtain ⟨found, same, pair⟩ := map_eq_ok.mp answer
  have numbered : found.2 = rowId := congrArg Prod.snd pair
  have kept : (adminEngine change tables sequences).2 = moved := congrArg Prod.snd taken
  refine ⟨found.1, ?_, (congrArg Prod.fst pair).symm⟩
  rw [← numbered, ← kept, ← same]

/-- Conditions on the states that a handler without a flush can end in. -/
theorem auditThenCommit_ensures {change : AdminChange} {row : AuditLog} {handled : AdminScript}
    {status : Nat} (plain : change.isAudit = false)
    (raised : post ⟨tables, []⟩ .raised) (stopped : post ⟨tables, []⟩ .stopped)
    (refused : ∀ moved, handled.Ensures adminEngine post (Session.start tables moved))
    (done : ∀ after rowId moved,
      adminEngine change tables sequences = (.ok (after, rowId), moved) →
        post ⟨withAudit after row, [.audit row, change]⟩ .raised ∧
        post ⟨withAudit after row, [.audit row, change]⟩ (.answered (.response status))) :
    (auditThenCommit change row handled status).Ensures adminEngine post
      (Session.start tables sequences) := by
  refine ⟨raised, stopped, refused, fun committed commits => ?_⟩
  obtain ⟨flushed, writes, durable⟩ := Session.commit_ok commits
  obtain ⟨auditId, audited, first, others⟩ := Session.applyAll_cons_ok writes
  obtain ⟨rowId, next, second, rest⟩ := Session.applyAll_cons_ok others
  rw [apply_audit first] at second
  obtain ⟨behind, moved, taken, same⟩ := Session.apply_ok second
  obtain ⟨after, accepted, added⟩ := adminEngine_withAudit plain taken
  have ended : next = flushed := congrArg Prod.snd rest
  rw [durable, ← ended, same, added]
  exact done after rowId moved accepted

/-- Conditions on the states that a lookup can end in. -/
theorem sessionGet_ensures {Row : Type} {rows : List Row} {key : Row → Nat} {id : Int}
    {missing : AdminScript} {found : Row → AdminScript} (raised : post ⟨tables, []⟩ .raised)
    (absent : missing.Ensures adminEngine post (Session.start tables sequences))
    (present : ∀ row ∈ rows, (key row : Int) = id →
      (found row).Ensures adminEngine post (Session.start tables sequences)) :
    (sessionGet rows key id missing found).Ensures adminEngine post
      (Session.start tables sequences) := by
  unfold sessionGet
  split
  · split
    · exact absent
    · rename_i row met
      have same := List.find?_some met
      exact present row (List.mem_of_find?_eq_some met) (of_decide_eq_true same)
  · exact raised

/-- Conditions on the states that a prepared change can end in. -/
theorem whenPrepared_ensures {prepared : Except HttpError PreparedChange}
    {next : PreparedChange → AdminScript}
    (refused : ∀ error, prepared = .error error → post ⟨tables, []⟩ (.answered (.refusal error)))
    (ready : ∀ change, prepared = .ok change →
      (next change).Ensures adminEngine post (Session.start tables sequences)) :
    (whenPrepared prepared next).Ensures adminEngine post (Session.start tables sequences) := by
  cases prepared with
  | error error => exact refused error rfl
  | ok change => exact ready change rfl

end Shapes

/-! ## The conditions -/

section Conditions

variable {fold : CaseFolding} {tables after : AdminTables} {asking : Purpose}

/-- An audit row breaks no constraint. -/
theorem Valid_withAudit (row : AuditLog) (valid : tables.Valid fold) :
    (withAudit tables row).Valid fold := { valid with }

/-- An audit row neither adds nor removes a target. -/
theorem Listed_withAudit (row : AuditLog) (target : Target) :
    target.Listed (withAudit tables row) ↔ target.Listed tables := by
  cases target <;> exact Iff.rfl

/-- An audit row is not among what a target leaves alone. -/
theorem others_withAudit (row : AuditLog) (target : Target) :
    target.others (withAudit tables row) = target.others tables := by
  cases target <;> rfl

/-- An unhandled error asks nothing of the tables. -/
theorem allOrNothing_raised {version : Version AdminTables AdminChange} :
    AllOrNothing fold asking tables version .raised :=
  fun _ answered => nomatch answered

/-- A stop asks nothing of the tables. -/
theorem allOrNothing_stopped {version : Version AdminTables AdminChange} :
    AllOrNothing fold asking tables version .stopped :=
  fun _ answered => nomatch answered

/-- A refusal that has committed nothing leaves the tables. -/
theorem allOrNothing_refusal (error : HttpError) :
    AllOrNothing fold asking tables ⟨tables, []⟩ (.answered (.refusal error)) := by
  intro reply answered
  cases answered
  exact ⟨fun _ => rfl, fun success => success.elim⟩

/-- A change that is committed with its audit row applies the request. -/
theorem allOrNothing_applied (target : Target) {row : AuditLog} {journal : List AdminChange}
    {status : Nat} (kind : target.kind = asking.kind) (asked : ∀ id ∈ asking.asked, id = target.id)
    (changed : Changed fold asking.effect target tables after)
    (records : Records asking target row) :
    AllOrNothing fold asking tables ⟨withAudit after row, journal⟩ .raised ∧
      AllOrNothing fold asking tables ⟨withAudit after row, journal⟩
        (.answered (.response status)) := by
  refine ⟨allOrNothing_raised, ?_⟩
  intro reply answered
  cases answered
  refine ⟨fun failure => failure.elim, fun _ => ⟨target, row, ?_⟩⟩
  exact {
    kind := kind
    asked := asked
    others := by
      rw [others_withAudit]
      exact changed.others
    effect := by
      have held := changed.effect
      revert held
      cases asking.effect <;> simp only [Effect.Holds, Listed_withAudit, imp_self]
    constraints := Valid_withAudit row changed.constraints
    auditLog := by
      change after.auditLog ++ [row] = tables.auditLog ++ [row]
      rw [changed.auditLog]
    records := records }

/-- A refusal right after the lookups. -/
theorem refuse_ensures {sequences : AdminSequences} (status : Nat) (detail : Option String) :
    (refuse status detail).Ensures adminEngine (AllOrNothing fold asking tables)
      (Session.start tables sequences) :=
  allOrNothing_refusal ⟨status, detail⟩

end Conditions

/-! ## Devices -/

section Handlers

variable {fold : CaseFolding} {tables : AdminTables} {sequences : AdminSequences}
  (printable : Char → Bool) (ctx : SessionContext)

/-- What a PATCH of a device prepares. -/
theorem updateDevice_ok {seen : DeviceTables} {deviceId : Nat} {payload : DeviceUpdate}
    {change : PreparedChange}
    (prepared : updateDevice printable seen deviceId payload = .ok change) :
    ∃ row ∈ seen.devices, row.id = deviceId ∧ change.action = .deviceUpdated ∧
      ∃ columns, change.write = .update row.id columns := by
  obtain ⟨row, found, passed⟩ := bind_eq_ok.mp prepared
  obtain ⟨state, grouped, same⟩ := map_eq_ok.mp passed
  have loaded := getDevice_eq_ok.mp found
  subst same
  exact ⟨row, List.mem_of_find?_eq_some loaded, row_id loaded, rfl, _, rfl⟩

/-- Creating a device does all that it is for, or nothing. -/
theorem createDevice_ensures (payload : DeviceCreate) (valid : tables.Valid fold) :
    (createDeviceHandler ctx payload).Ensures adminEngine
      (AllOrNothing fold (purpose (.createDevice payload)) tables)
      (Session.start tables sequences) := by
  refine ⟨allOrNothing_raised, allOrNothing_stopped, ?_⟩
  split
  · apply whenPrepared_ensures
    · intro error _
      exact allOrNothing_refusal error
    · intro change prepared
      obtain ⟨group, -, same⟩ := map_eq_ok.mp prepared
      subst same
      apply flushThenAudit_ensures allOrNothing_raised allOrNothing_stopped
        (allOrNothing_refusal _)
      intro after rowId moved taken
      have written := congrArg Prod.fst taken
      exact allOrNothing_applied (.device rowId) rfl nofun
        (insertDevice_changed valid written) ⟨rfl, rfl, rfl⟩
  · exact allOrNothing_raised

/-- Editing a device does all that it is for, or nothing. -/
theorem updateDevice_ensures (deviceId : Int) (payload : DeviceUpdate)
    (valid : tables.Valid fold) :
    (updateDeviceHandler printable ctx deviceId payload).Ensures adminEngine
      (AllOrNothing fold (purpose (.updateDevice deviceId payload)) tables)
      (Session.start tables sequences) := by
  refine ⟨allOrNothing_raised, allOrNothing_stopped, ?_⟩
  apply sessionGet_ensures allOrNothing_raised (refuse_ensures _ _)
  intro loaded _ named
  split
  · apply whenPrepared_ensures
    · intro error _
      exact allOrNothing_refusal error
    · intro change prepared
      obtain ⟨row, listed, same, action, columns, write⟩ := updateDevice_ok printable prepared
      apply flushThenAudit_ensures allOrNothing_raised allOrNothing_stopped
        (allOrNothing_refusal _)
      intro after rowId moved taken
      rw [write] at taken
      have written := congrArg Prod.fst taken
      obtain ⟨own, changed⟩ := updateDevice_changed valid listed written
      apply allOrNothing_applied (.device row.id) rfl _ changed
      · exact ⟨action, rfl, by rw [own]; rfl⟩
      · intro id asked
        have path : deviceId = id := Option.some.inj asked
        rw [← path, ← named]
        exact congrArg Nat.cast same.symm
  · exact allOrNothing_raised

/-- Changing a loaded device in one commit with its audit row. -/
theorem changeDevice_ensures (request : AdminRequest) (deviceId : Int)
    (prepared : DeviceTables → Nat → Except HttpError PreparedChange) (status : Nat)
    (kind : (purpose request).kind = "device") (path : (purpose request).asked = some deviceId)
    (does : ∀ seen id change, prepared seen id = .ok change →
      change.action = (purpose request).action ∧
        ∀ row ∈ tables.devices, row.id = id → ∀ after rowId moved,
          adminEngine (.device change.write) tables sequences = (.ok (after, rowId), moved) →
            Changed fold (purpose request).effect (.device row.id) tables after) :
    (changeDeviceHandler ctx deviceId prepared status).Ensures adminEngine
      (AllOrNothing fold (purpose request) tables) (Session.start tables sequences) := by
  refine ⟨allOrNothing_raised, allOrNothing_stopped, ?_⟩
  apply sessionGet_ensures allOrNothing_raised (refuse_ensures _ _)
  intro row listed named
  apply whenPrepared_ensures
  · intro error _
    exact allOrNothing_refusal error
  · intro change ready
    obtain ⟨action, changes⟩ := does _ _ change ready
    apply auditThenCommit_ensures rfl allOrNothing_raised allOrNothing_stopped
    · intro moved
      exact allOrNothing_raised
    · intro after rowId moved taken
      apply allOrNothing_applied (.device row.id) kind.symm _
        (changes row listed rfl after rowId moved taken)
      · exact ⟨action, by rw [kind]; rfl, rfl⟩
      · intro id asked
        rw [path] at asked
        exact (Option.some.inj asked).symm.trans named.symm

/-- The write of a change that is prepared from the row with an id. -/
theorem getDevice_map_ok {seen : DeviceTables} {deviceId : Nat} {change : PreparedChange}
    {next : Device → PreparedChange}
    (prepared : (getDevice seen.devices deviceId).map next = .ok change) :
    ∃ row, row.id = deviceId ∧ next row = change := by
  obtain ⟨row, found, same⟩ := map_eq_ok.mp prepared
  exact ⟨row, row_id (getDevice_eq_ok.mp found), same⟩

/-- Deleting a device does all that it is for, or nothing. -/
theorem deleteDevice_ensures (deviceId : Int) (valid : tables.Valid fold) :
    (deleteDeviceHandler ctx deviceId).Ensures adminEngine
      (AllOrNothing fold (purpose (.deleteDevice deviceId)) tables)
      (Session.start tables sequences) := by
  apply changeDevice_ensures ctx (.deleteDevice deviceId) deviceId deleteDevice 204 rfl rfl
  intro seen id change ready
  obtain ⟨loaded, same, made⟩ := getDevice_map_ok ready
  subst made
  refine ⟨rfl, ?_⟩
  intro row listed named after rowId moved taken
  rw [same, ← named] at taken
  have written : writeDevice tables sequences (.delete row.id) = .ok (after, rowId) :=
    congrArg Prod.fst taken
  exact deleteDevice_changed valid listed written

/-- What an edit of a loaded device changes. -/
theorem editDevice_changed {row loaded : Device} {columns : DeviceColumns} {after : AdminTables}
    {id rowId : Nat} {moved : AdminSequences} (valid : tables.Valid fold)
    (listed : row ∈ tables.devices) (named : row.id = id) (same : loaded.id = id)
    (taken : adminEngine (.device (.update loaded.id columns)) tables sequences =
      (.ok (after, rowId), moved)) : Changed fold .edited (.device row.id) tables after := by
  rw [same, ← named] at taken
  have written := congrArg Prod.fst taken
  exact (updateDevice_changed valid listed written).2

/-- Rotating the secret of a device. -/
theorem rotateSecret_ensures (deviceId : Int) (payload : DeviceRotateSecret)
    (valid : tables.Valid fold) :
    (rotateSecretHandler ctx deviceId payload).Ensures adminEngine
      (AllOrNothing fold (purpose (.rotateSecret deviceId payload)) tables)
      (Session.start tables sequences) := by
  apply changeDevice_ensures ctx (.rotateSecret deviceId payload) deviceId _ 200 rfl rfl
  intro seen id change ready
  obtain ⟨loaded, same, made⟩ := getDevice_map_ok ready
  subst made
  refine ⟨rfl, ?_⟩
  intro row listed named after rowId moved taken
  exact editDevice_changed valid listed named same taken

/-- Retiring the previous secret of a device. -/
theorem retirePreviousSecret_ensures (deviceId : Int) (now : Nat) (valid : tables.Valid fold) :
    (retirePreviousSecretHandler ctx deviceId now).Ensures adminEngine
      (AllOrNothing fold (purpose (.retirePreviousSecret deviceId now)) tables)
      (Session.start tables sequences) := by
  apply changeDevice_ensures ctx (.retirePreviousSecret deviceId now) deviceId _ 200 rfl rfl
  intro seen id change ready
  obtain ⟨loaded, same, made⟩ := getDevice_map_ok ready
  subst made
  refine ⟨rfl, ?_⟩
  intro row listed named after rowId moved taken
  exact editDevice_changed valid listed named same taken

/-! ## Device groups and privilege profiles -/

/-- Creating a device group. -/
theorem createDeviceGroup_ensures (payload : DeviceGroupCreate) (valid : tables.Valid fold) :
    (createDeviceGroupHandler ctx payload).Ensures adminEngine
      (AllOrNothing fold (purpose (.createDeviceGroup payload)) tables)
      (Session.start tables sequences) := by
  apply flushThenAudit_ensures allOrNothing_raised allOrNothing_stopped (allOrNothing_refusal _)
  intro after rowId moved taken
  have written := congrArg Prod.fst taken
  exact allOrNothing_applied (.deviceGroup rowId) rfl nofun
    (insertDeviceGroup_changed valid written) ⟨rfl, rfl, rfl⟩

/-- Creating a privilege profile. -/
theorem createPrivilegeProfile_ensures (payload : PrivilegeProfileCreate)
    (valid : tables.Valid fold) :
    (createPrivilegeProfileHandler ctx payload).Ensures adminEngine
      (AllOrNothing fold (purpose (.createPrivilegeProfile payload)) tables)
      (Session.start tables sequences) := by
  apply flushThenAudit_ensures allOrNothing_raised allOrNothing_stopped (allOrNothing_refusal _)
  intro after rowId moved taken
  have written := congrArg Prod.fst taken
  exact allOrNothing_applied (.privilegeProfile rowId) rfl nofun
    (insertPrivilegeProfile_changed valid written) ⟨rfl, rfl, rfl⟩

/-- Editing a device group does all that it is for, or nothing. -/
theorem updateDeviceGroup_ensures (groupId : Int) (payload : DeviceGroupUpdate)
    (valid : tables.Valid fold) :
    (updateDeviceGroupHandler printable ctx groupId payload).Ensures adminEngine
      (AllOrNothing fold (purpose (.updateDeviceGroup groupId payload)) tables)
      (Session.start tables sequences) := by
  refine ⟨allOrNothing_raised, allOrNothing_stopped, ?_⟩
  apply sessionGet_ensures allOrNothing_raised (refuse_ensures _ _)
  intro row listed named
  apply flushThenAudit_ensures allOrNothing_raised allOrNothing_stopped (allOrNothing_refusal _)
  intro after rowId moved taken
  have written := congrArg Prod.fst taken
  have same : (payload.edit row).id = row.id := rfl
  obtain ⟨own, changed⟩ := replaceDeviceGroup_changed valid listed same written
  apply allOrNothing_applied (.deviceGroup row.id) rfl _ changed
  · exact ⟨rfl, rfl, by rw [own]; rfl⟩
  · intro id asked
    exact (Option.some.inj asked).symm.trans named.symm

/-- Editing a privilege profile. -/
theorem updatePrivilegeProfile_ensures (profileId : Int) (payload : PrivilegeProfileUpdate)
    (valid : tables.Valid fold) :
    (updatePrivilegeProfileHandler printable ctx profileId payload).Ensures adminEngine
      (AllOrNothing fold (purpose (.updatePrivilegeProfile profileId payload)) tables)
      (Session.start tables sequences) := by
  refine ⟨allOrNothing_raised, allOrNothing_stopped, ?_⟩
  apply sessionGet_ensures allOrNothing_raised (refuse_ensures _ _)
  intro row listed named
  apply flushThenAudit_ensures allOrNothing_raised allOrNothing_stopped (allOrNothing_refusal _)
  intro after rowId moved taken
  have written := congrArg Prod.fst taken
  have same : (payload.edit row).id = row.id := rfl
  obtain ⟨own, changed⟩ := replacePrivilegeProfile_changed valid listed same written
  apply allOrNothing_applied (.privilegeProfile row.id) rfl _ changed
  · exact ⟨rfl, rfl, by rw [own]; rfl⟩
  · intro id asked
    exact (Option.some.inj asked).symm.trans named.symm

/-- Deleting a privilege profile: the references to it come out at the commit. -/
theorem deletePrivilegeProfile_ensures (profileId : Int) (valid : tables.Valid fold) :
    (deletePrivilegeProfileHandler ctx profileId).Ensures adminEngine
      (AllOrNothing fold (purpose (.deletePrivilegeProfile profileId)) tables)
      (Session.start tables sequences) := by
  refine ⟨allOrNothing_raised, allOrNothing_stopped, ?_⟩
  apply sessionGet_ensures allOrNothing_raised (refuse_ensures _ _)
  intro row listed named
  apply auditThenCommit_ensures rfl allOrNothing_raised allOrNothing_stopped
  · intro moved
    exact allOrNothing_refusal _
  · intro after rowId moved taken
    have written := congrArg Prod.fst taken
    apply allOrNothing_applied (.privilegeProfile row.id) rfl _
      (deletePrivilegeProfile_changed valid listed written) ⟨rfl, rfl, rfl⟩
    intro id asked
    exact (Option.some.inj asked).symm.trans named.symm

/-! ## Authorizations -/

/-- Creating an authorization once its principal is found. -/
theorem authorize_ensures (payload : AuthorizationCreate) (row : Nat → Nat → Authorization)
    (valid : tables.Valid fold) :
    (authorize ctx tables payload row).Ensures adminEngine
      (AllOrNothing fold (purpose (.createAuthorization payload)) tables)
      (Session.start tables sequences) := by
  apply sessionGet_ensures allOrNothing_raised (refuse_ensures _ _)
  intro group _ _
  apply sessionGet_ensures allOrNothing_raised (refuse_ensures _ _)
  intro profile _ _
  apply flushThenAudit_ensures allOrNothing_raised allOrNothing_stopped (allOrNothing_refusal _)
  intro after rowId moved taken
  have written := congrArg Prod.fst taken
  exact allOrNothing_applied (.authorization rowId) rfl nofun
    (insertAuthorization_changed valid written) ⟨rfl, rfl, rfl⟩

/-- Creating an authorization. -/
theorem createAuthorization_ensures (payload : AuthorizationCreate) (valid : tables.Valid fold) :
    (createAuthorizationHandler ctx payload).Ensures adminEngine
      (AllOrNothing fold (purpose (.createAuthorization payload)) tables)
      (Session.start tables sequences) := by
  obtain ⟨principal, deviceGroupId, privilegeProfileId⟩ := payload
  cases principal with
  | user userId =>
    refine ⟨allOrNothing_raised, allOrNothing_stopped, ?_⟩
    apply sessionGet_ensures allOrNothing_raised (refuse_ensures _ _)
    intro user _ _
    exact authorize_ensures ctx ⟨.user userId, deviceGroupId, privilegeProfileId⟩ _ valid
  | adGroup adGroupId =>
    refine ⟨allOrNothing_raised, allOrNothing_stopped, ?_⟩
    apply sessionGet_ensures allOrNothing_raised (refuse_ensures _ _)
    intro adGroup _ _
    exact authorize_ensures ctx ⟨.adGroup adGroupId, deviceGroupId, privilegeProfileId⟩ _ valid

/-- Deleting an authorization. -/
theorem deleteAuthorization_ensures (authzId : Int) (valid : tables.Valid fold) :
    (deleteAuthorizationHandler ctx authzId).Ensures adminEngine
      (AllOrNothing fold (purpose (.deleteAuthorization authzId)) tables)
      (Session.start tables sequences) := by
  refine ⟨allOrNothing_raised, allOrNothing_stopped, ?_⟩
  apply sessionGet_ensures allOrNothing_raised (refuse_ensures _ _)
  intro row listed named
  apply auditThenCommit_ensures rfl allOrNothing_raised allOrNothing_stopped
  · intro moved
    exact allOrNothing_raised
  · intro after rowId moved taken
    have written := congrArg Prod.fst taken
    apply allOrNothing_applied (.authorization row.id) rfl _
      (deleteAuthorization_changed valid listed written) ⟨rfl, rfl, rfl⟩
    intro id asked
    exact (Option.some.inj asked).symm.trans named.symm

/-! ## All requests -/

/-- Every handler ends all or nothing. -/
theorem handler_ensures (request : AdminRequest) (valid : tables.Valid fold) :
    (request.handler printable ctx).Ensures adminEngine
      (AllOrNothing fold (purpose request) tables) (Session.start tables sequences) := by
  cases request with
  | createDevice payload => exact createDevice_ensures ctx payload valid
  | updateDevice deviceId payload => exact updateDevice_ensures printable ctx deviceId payload valid
  | deleteDevice deviceId => exact deleteDevice_ensures ctx deviceId valid
  | rotateSecret deviceId payload => exact rotateSecret_ensures ctx deviceId payload valid
  | retirePreviousSecret deviceId now => exact retirePreviousSecret_ensures ctx deviceId now valid
  | createDeviceGroup payload => exact createDeviceGroup_ensures ctx payload valid
  | updateDeviceGroup groupId payload =>
    exact updateDeviceGroup_ensures printable ctx groupId payload valid
  | createPrivilegeProfile payload => exact createPrivilegeProfile_ensures ctx payload valid
  | updatePrivilegeProfile profileId payload =>
    exact updatePrivilegeProfile_ensures printable ctx profileId payload valid
  | deletePrivilegeProfile profileId => exact deletePrivilegeProfile_ensures ctx profileId valid
  | createAuthorization payload => exact createAuthorization_ensures ctx payload valid
  | deleteAuthorization authzId => exact deleteAuthorization_ensures ctx authzId valid

end Handlers

/-- Over tables that meet the constraints, a request that is refused with a client error leaves
every table as it was, and one that succeeds changes its one row, keeps the constraints and adds
exactly one audit row, about that row. This holds of the undisturbed run, where nothing is planned,
and of every run in which operations of the database fail. -/
theorem request_all_or_nothing (fold : CaseFolding) (printable : Char → Bool)
    (ctx : SessionContext) (request : AdminRequest) (tables : AdminTables)
    (sequences : AdminSequences) (plan : List Outcome) (valid : tables.Valid fold) :
    let ended := (request.handler printable ctx).run adminEngine (.start tables sequences) plan
    AllOrNothing fold (purpose request) tables ended.1.durable ended.2 :=
  Script.run_ensures (handler_ensures printable ctx request valid) plan

/-- The highest level is in range. -/
theorem highestLevel_inRange : 0 ≤ (15 : Int) ∧ (15 : Int) ≤ 15 := by decide

/-- A rule for a user has exactly one principal. -/
theorem userRule_onePrincipal : (some 1 : Option Nat).isSome ≠ (none : Option Nat).isSome := by
  decide

/-- One row in every table, each referring to the others. -/
def oneOfEach : AdminTables where
  identity := ⟨[⟨1, "anna", none, "CN=Anna", none, none, true, none⟩], [], [], 2, 1⟩
  deviceGroups := [⟨1, "core", none⟩]
  devices := [⟨1, "r1", "10.0.0.1", 1, some "old", none, none, none⟩]
  privilegeProfiles := [⟨1, "ops", 15, [], [], ∅, none, highestLevel_inRange⟩]
  authorizations := [⟨1, some 1, none, 1, 1, userRule_onePrincipal⟩]
  accountingDeviceIds := [some 1, none]
  systemSettings := ∅
  systemSecrets := ∅
  lastSyncResult := none
  localAdmin := none
  auditLog := []

/-- One row in every table meets the constraints. -/
theorem oneOfEach_valid : oneOfEach.Valid .ascii where
  identity := by constructor <;> decide
  deviceGroupId := by decide
  deviceGroupName := by decide
  deviceId := by decide
  deviceName := by decide
  deviceIpOrCidr := by decide
  deviceGroup := by decide
  privilegeProfileId := by decide
  privilegeProfileName := by decide
  authorizationId := by decide
  authorizationUserEdge := by decide
  authorizationAdGroupEdge := by decide
  authorizationUser := by decide
  authorizationAdGroup := by decide
  authorizationDeviceGroup := by decide
  authorizationProfile := by decide
  accountingDevice := by
    intro deviceId referred
    simp only [oneOfEach, List.mem_cons, Option.some.injEq, List.not_mem_nil, or_false] at referred
    obtain rfl | absent := referred
    · exact ⟨_, List.mem_singleton_self _, rfl⟩
    · cases absent

/-- The local admin at a browser. -/
def adminAtBrowser : SessionContext := ⟨"admin", "admin", "local", some 1, some "10.0.0.9", none⟩

/-- The handler of a request over one row of everything, undisturbed. -/
def requestOnOneOfEach (request : AdminRequest) :
    Session AdminTables AdminSequences AdminChange × Ending Reply :=
  (request.handler Char.isAlphanum adminAtBrowser).run adminEngine
    (.start oneOfEach ⟨2, 2, 2, 2⟩) []

/-- A rotation that succeeds, and what it leaves. -/
theorem request_all_or_nothing_rotate :
    (requestOnOneOfEach (.rotateSecret 1 ⟨"new", by decide⟩)).2 = .answered (.response 200) ∧
      AllOrNothing .ascii (purpose (.rotateSecret 1 ⟨"new", by decide⟩)) oneOfEach
        (requestOnOneOfEach (.rotateSecret 1 ⟨"new", by decide⟩)).1.durable
        (requestOnOneOfEach (.rotateSecret 1 ⟨"new", by decide⟩)).2 :=
  ⟨by decide +kernel, request_all_or_nothing .ascii Char.isAlphanum adminAtBrowser
    (.rotateSecret 1 ⟨"new", by decide⟩) oneOfEach ⟨2, 2, 2, 2⟩ [] oneOfEach_valid⟩

example : (requestOnOneOfEach (.deletePrivilegeProfile 1)).2 =
    .answered (.refusal ⟨409, some "profile_in_use"⟩) := by decide +kernel

example : (requestOnOneOfEach (.updateDevice 7 ⟨none, none, none, none, none,
    nofun, nofun, nofun, nofun, nofun⟩)).2 = .answered (.refusal ⟨404, none⟩) := by decide +kernel

end TacacsWeb.Verif
