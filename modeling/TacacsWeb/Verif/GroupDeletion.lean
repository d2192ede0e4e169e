import TacacsWeb.Verif.AdminAtomicity

/-!
# The deletion of a device group

The database refuses to delete a device group while a device is in it, and the handler turns that
into a conflict. A deletion is passed on to the authorizations about the group, so a group that
only authorizations refer to is deleted with them. The audit row is inserted first: when it does not
fit its columns, the request fails before either.
-/

namespace TacacsWeb.Verif

open TacacsWeb.Library TacacsWeb.Library.UnitOfWork TacacsWeb.Model

/-! ## The statement -/

/-- A device is in the group. -/
def DeviceInGroup (tables : AdminTables) (group : DeviceGroup) : Prop :=
  ∃ device ∈ tables.devices, device.deviceGroupId = group.id

/-- An authorization is about the group. -/
def AuthorizedOnGroup (tables : AdminTables) (group : DeviceGroup) : Prop :=
  ∃ row ∈ tables.authorizations, row.deviceGroupId = group.id

/-- The run of `DELETE /device-groups/{id}`. -/
def groupDeletion (ctx : SessionContext) (tables : AdminTables) (sequences : AdminSequences)
    (group : DeviceGroup) : Session AdminTables AdminSequences AdminChange × Ending Reply :=
  (deleteDeviceGroupHandler ctx group.id).run adminEngine (.start tables sequences) []

/-- The request is refused and changes nothing. -/
def GroupKept (ctx : SessionContext) (tables : AdminTables) (sequences : AdminSequences)
    (group : DeviceGroup) : Prop :=
  (groupDeletion ctx tables sequences group).2 =
      .answered (.refusal ⟨409, some "device_group_in_use"⟩) ∧
    (groupDeletion ctx tables sequences group).1.durable.tables = tables

/-- The request removes the row of the group, adds an audit row and changes nothing else. -/
def OnlyGroupRemoved (ctx : SessionContext) (tables : AdminTables) (sequences : AdminSequences)
    (group : DeviceGroup) : Prop :=
  ∃ audit, (groupDeletion ctx tables sequences group).1.durable.tables =
    { tables with
      deviceGroups := tables.deviceGroups.filter fun other => other.id ≠ group.id
      auditLog := tables.auditLog ++ [audit] }

/-- A group in use is kept, and any other one is removed alone. -/
def DeletesUnusedGroup (ctx : SessionContext) (tables : AdminTables) (sequences : AdminSequences)
    (group : DeviceGroup) : Prop :=
  (DeviceInGroup tables group ∨ AuthorizedOnGroup tables group →
      GroupKept ctx tables sequences group) ∧
    (¬(DeviceInGroup tables group ∨ AuthorizedOnGroup tables group) →
      OnlyGroupRemoved ctx tables sequences group)

/-- The audit row of the deletion. -/
def groupDeletionAudit (ctx : SessionContext) (group : DeviceGroup) : AuditLog :=
  appendCrud ctx .deviceGroupDeleted "device_group" group.id (some group.name)

/-! ## The run -/

section Deletion

variable {ctx : SessionContext} {tables : AdminTables} {sequences : AdminSequences}
  {group : DeviceGroup}

/-- The handler stages the deletion of the row it loads, and the audit row. -/
theorem groupDeletion_eq (distinct : (tables.deviceGroups.map DeviceGroup.id).Nodup)
    (listed : group ∈ tables.deviceGroups) (stored : integerFits (some (group.id : Int)) = true) :
    groupDeletion ctx tables sequences group =
      (auditThenCommit (.deleteDeviceGroup group.id) (groupDeletionAudit ctx group)
        (.rollback (refuse 409 (some "device_group_in_use"))) 204).run adminEngine
          (.start tables sequences) [] := by
  have found : (tables.deviceGroups.find? fun row => ((row.id : Nat) : Int) = group.id) =
      some group := by
    have row := (find_key_eq_some_iff distinct).mpr ⟨listed, rfl⟩
    simpa only [Int.natCast_inj] using row
  unfold groupDeletion deleteDeviceGroupHandler sessionGet
  simp only [Script.run, List.headD_nil, if_pos stored, Session.start, found]
  rfl

/-- An audit row that fits is inserted. -/
theorem audit_accepted (tables : AdminTables) (sequences : AdminSequences)
    (fits : (groupDeletionAudit ctx group).fits = true) :
    adminEngine (.audit (groupDeletionAudit ctx group)) tables sequences =
      (.ok (withAudit tables (groupDeletionAudit ctx group), 0), sequences) := by
  simp only [adminEngine, insertAudit, statement, fits]
  rfl

/-- While a device is in the group, the database refuses to delete it behind the audit row. -/
theorem deleteDeviceGroup_refused (row : AuditLog) (sequences : AdminSequences)
    (used : DeviceInGroup tables group) :
    adminEngine (.deleteDeviceGroup group.id) (withAudit tables row) sequences =
      (.error .integrity, sequences) := by
  have refers : ((withAudit tables row).devices.any fun device =>
      device.deviceGroupId = group.id) = true := by
    obtain ⟨device, present, same⟩ := used
    exact List.any_eq_true.mpr ⟨device, present, decide_eq_true same⟩
  simp only [adminEngine, deleteDeviceGroupRow, statement, refers]
  rfl

/-- Without one, the database deletes the row and the authorizations about the group. -/
theorem deleteDeviceGroup_accepted (row : AuditLog) (sequences : AdminSequences)
    (unused : ¬DeviceInGroup tables group) :
    adminEngine (.deleteDeviceGroup group.id) (withAudit tables row) sequences =
      (.ok ({ tables with
        deviceGroups := tables.deviceGroups.filter fun other => other.id ≠ group.id
        authorizations := tables.authorizations.filter fun row => row.deviceGroupId ≠ group.id
        auditLog := tables.auditLog ++ [row] }, group.id), sequences) := by
  have refers : ((withAudit tables row).devices.any fun device =>
      device.deviceGroupId = group.id) = false := by
    rw [List.any_eq_false]
    intro device present same
    exact unused ⟨device, present, of_decide_eq_true same⟩
  simp only [adminEngine, deleteDeviceGroupRow, statement, refers]
  rfl

/-- While a device is in the group, the deletion is refused, when the audit row can be stored. -/
theorem groupKept_of_device (distinct : (tables.deviceGroups.map DeviceGroup.id).Nodup)
    (listed : group ∈ tables.deviceGroups) (stored : integerFits (some (group.id : Int)) = true)
    (used : DeviceInGroup tables group) (fits : (groupDeletionAudit ctx group).fits = true) :
    GroupKept ctx tables sequences group := by
  have audited := audit_accepted tables sequences fits
  have answer := deleteDeviceGroup_refused (groupDeletionAudit ctx group) sequences used
  unfold GroupKept
  rw [groupDeletion_eq distinct listed stored]
  simp only [auditThenCommit, refuse, Script.run, Session.commit, Session.flush, Session.stage,
    Session.start, Session.applyAll, Session.apply, List.nil_append, List.cons_append,
    List.headD_nil, audited, answer]
  constructor <;> trivial

/-- Without one, the group is removed with the authorizations about it, when the audit row can be
stored. -/
theorem groupDeletion_written (sequences : AdminSequences)
    (distinct : (tables.deviceGroups.map DeviceGroup.id).Nodup)
    (listed : group ∈ tables.deviceGroups) (stored : integerFits (some (group.id : Int)) = true)
    (unused : ¬DeviceInGroup tables group) (fits : (groupDeletionAudit ctx group).fits = true) :
    (groupDeletion ctx tables sequences group).2 = .answered (.response 204) ∧
      (groupDeletion ctx tables sequences group).1.durable.tables =
        { tables with
          deviceGroups := tables.deviceGroups.filter fun other => other.id ≠ group.id
          authorizations := tables.authorizations.filter fun row => row.deviceGroupId ≠ group.id
          auditLog := tables.auditLog ++ [groupDeletionAudit ctx group] } := by
  have audited := audit_accepted tables sequences fits
  have answer := deleteDeviceGroup_accepted (groupDeletionAudit ctx group) sequences unused
  rw [groupDeletion_eq distinct listed stored]
  simp only [auditThenCommit, Script.run, Session.commit, Session.flush, Session.stage,
    Session.start, Session.applyAll, Session.apply, List.nil_append, List.cons_append,
    List.headD_nil, audited, answer]
  constructor <;> trivial

/-- When the audit row cannot be stored, the request fails before the database looks at the
deletion, and nothing is stored. -/
theorem groupDeletion_unwritten (sequences : AdminSequences)
    (distinct : (tables.deviceGroups.map DeviceGroup.id).Nodup)
    (listed : group ∈ tables.deviceGroups) (stored : integerFits (some (group.id : Int)) = true)
    (unfit : (groupDeletionAudit ctx group).fits = false) :
    (groupDeletion ctx tables sequences group).2 = .raised ∧
      (groupDeletion ctx tables sequences group).1.durable.tables = tables := by
  have unaudited : adminEngine (.audit (groupDeletionAudit ctx group)) tables sequences =
      (.error .other, sequences) := by
    simp only [adminEngine, insertAudit, statement, unfit]
    rfl
  rw [groupDeletion_eq distinct listed stored]
  simp only [auditThenCommit, Script.run, Session.commit, Session.flush, Session.stage,
    Session.start, Session.applyAll, Session.apply, List.nil_append, List.cons_append,
    List.headD_nil, unaudited]
  constructor <;> trivial

/-- A group in use is kept and any other one removed alone exactly when the audit row of the
deletion can be stored and a device is in the group or no authorization is about it. -/
theorem deletesUnusedGroup_iff {fold : CaseFolding} (valid : tables.Valid fold)
    (listed : group ∈ tables.deviceGroups)
    (stored : integerFits (some (group.id : Int)) = true) :
    DeletesUnusedGroup ctx tables sequences group ↔
      (groupDeletionAudit ctx group).fits = true ∧
        (DeviceInGroup tables group ∨ ¬AuthorizedOnGroup tables group) := by
  have distinct := valid.deviceGroupId
  constructor
  · intro deletes
    -- Without its audit row the request neither refuses nor removes anything.
    have fits : (groupDeletionAudit ctx group).fits = true := by
      by_contra unfit
      have failed := groupDeletion_unwritten sequences distinct listed stored
        (eq_false_of_ne_true unfit)
      by_cases used : DeviceInGroup tables group ∨ AuthorizedOnGroup tables group
      · have answered := (deletes.1 used).1
        rw [failed.1] at answered
        cases answered
      · obtain ⟨audit, removed⟩ := deletes.2 used
        rw [failed.2] at removed
        have longer := congrArg (fun after => after.auditLog.length) removed
        simp at longer
    refine ⟨fits, ?_⟩
    by_cases used : DeviceInGroup tables group
    · exact .inl used
    · right
      intro authorized
      have answered := (deletes.1 (.inr authorized)).1
      have ended := (groupDeletion_written sequences distinct listed stored used fits).1
      rw [ended] at answered
      cases answered
  · intro condition
    obtain ⟨fits, free⟩ := condition
    constructor
    · intro used
      apply groupKept_of_device distinct listed stored _ fits
      by_contra unused
      exact (free.resolve_left unused) (used.resolve_left unused)
    · intro unused
      have noDevice : ¬DeviceInGroup tables group := fun used => unused (.inl used)
      have written := (groupDeletion_written sequences distinct listed stored noDevice fits).2
      have others : (tables.authorizations.filter fun row => row.deviceGroupId ≠ group.id) =
          tables.authorizations := by
        rw [List.filter_eq_self]
        intro row present
        exact decide_eq_true fun same => unused (.inr ⟨row, present, same⟩)
      refine ⟨groupDeletionAudit ctx group, ?_⟩
      rw [written, others]

end Deletion

/-- Tables with a group that only an authorization refers to. -/
def oneAuthorized : AdminTables := { oneOfEach with devices := [], accountingDeviceIds := [] }

/-- Tables with a group that nothing refers to. -/
def oneUnused : AdminTables := { oneAuthorized with authorizations := [] }

/-- The group of those tables. -/
def coreGroup : DeviceGroup := ⟨1, "core", none⟩

/-- The tables with an authorization meet their constraints. -/
theorem oneAuthorized_valid : oneAuthorized.Valid .ascii :=
  { oneOfEach_valid with
    deviceId := List.nodup_nil
    deviceName := List.nodup_nil
    deviceIpOrCidr := List.nodup_nil
    deviceGroup := nofun
    accountingDevice := nofun }

/-- The tables with an unused group meet their constraints. -/
theorem oneUnused_valid : oneUnused.Valid .ascii :=
  { oneAuthorized_valid with
    authorizationId := List.nodup_nil
    authorizationUserEdge := List.nodup_nil
    authorizationAdGroupEdge := List.nodup_nil
    authorizationUser := nofun
    authorizationAdGroup := nofun
    authorizationDeviceGroup := nofun
    authorizationProfile := nofun }

/-- A group that nothing refers to is removed alone. -/
theorem deletesUnusedGroup_unused :
    DeletesUnusedGroup adminAtBrowser oneUnused ⟨2, 2, 2, 2⟩ coreGroup := by
  have free : ¬AuthorizedOnGroup oneUnused coreGroup := by
    intro authorized
    obtain ⟨row, present, -⟩ := authorized
    cases present
  exact (deletesUnusedGroup_iff oneUnused_valid List.mem_cons_self (by decide)).mpr
    ⟨by decide +kernel, .inr free⟩

/-- A group that an authorization is about is deleted, and the authorization with it. -/
theorem authorizedGroup_deleted :
    ¬ ∀ (fold : CaseFolding) (ctx : SessionContext) (tables : AdminTables)
        (sequences : AdminSequences) (group : DeviceGroup), tables.Valid fold →
      group ∈ tables.deviceGroups → integerFits (some (group.id : Int)) = true →
        (groupDeletionAudit ctx group).fits = true →
          DeletesUnusedGroup ctx tables sequences group := by
  intro claimed
  have deletes := claimed .ascii adminAtBrowser oneAuthorized ⟨2, 2, 2, 2⟩ coreGroup
    oneAuthorized_valid List.mem_cons_self (by decide) (by decide +kernel)
  have authorized : AuthorizedOnGroup oneAuthorized coreGroup := ⟨_, List.mem_cons_self, rfl⟩
  have condition := (deletesUnusedGroup_iff oneAuthorized_valid List.mem_cons_self
    (by decide)).mp deletes
  rcases condition.2 with used | free
  · obtain ⟨device, present, -⟩ := used
    cases present
  · exact free authorized

end TacacsWeb.Verif
