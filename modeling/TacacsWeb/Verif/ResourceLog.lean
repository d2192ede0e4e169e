import TacacsWeb.Library.IntText
import TacacsWeb.Verif.TaskEffects

/-!
# What the audit log says about the resources

The rows of the log about creations and deletions, what the summary of an authorization tells, and
what a documented change does to the resources beside the row that it adds to the log.
-/

namespace TacacsWeb.Verif

open TacacsWeb.Library TacacsWeb.Library.UnitOfWork TacacsWeb.Model

/-! ## What the log says -/

/-- The log records a creation. -/
def Created (log : List AuditLog) (target : Target) : Prop := ∃ row ∈ log, SaysCreated target row

/-- The log records a deletion. -/
def Deleted (log : List AuditLog) (target : Target) : Prop := ∃ row ∈ log, SaysDeleted target row

/-- A resource that goes only by a deletion of its own: anything but an authorization. -/
def Target.isPlain : Target → Bool
  | .authorization _ => false
  | _ => true

/-! ## One row more -/

section Rows

variable {log rows : List AuditLog} {row : AuditLog} {target other : Target}

/-- A creation is of one target. -/
theorem SaysCreated.unique (recorded : SaysCreated target row) (again : SaysCreated other row) :
    other = target := by
  have actions : createdAction other = createdAction target :=
    again.action.symm.trans recorded.action
  have ids : other.id = target.id :=
    Option.some.inj (again.targetId.symm.trans recorded.targetId)
  cases target <;> cases other <;> simp_all [createdAction, Target.id]

/-- A deletion is of one target. -/
theorem SaysDeleted.unique (recorded : SaysDeleted target row) (again : SaysDeleted other row) :
    other = target := by
  have actions : deletedAction other = deletedAction target :=
    again.action.symm.trans recorded.action
  have ids : other.id = target.id :=
    Option.some.inj (again.targetId.symm.trans recorded.targetId)
  cases target <;> cases other <;> simp_all [deletedAction, Target.id]

/-- A creation is no deletion. -/
theorem SaysCreated.not_deleted (recorded : SaysCreated target row) : ¬SaysDeleted other row := by
  intro deleted
  have actions : deletedAction other = createdAction target :=
    deleted.action.symm.trans recorded.action
  cases target <;> cases other <;> simp [createdAction, deletedAction] at actions

/-- A row about anything else is no creation. -/
theorem not_saysCreated (silent : row.action ∉ lifecycleActions) : ¬SaysCreated target row := by
  intro recorded
  rw [recorded.action] at silent
  cases target <;> simp [createdAction, lifecycleActions] at silent

/-- A row of another action says of no target that it was deleted. -/
theorem not_saysDeleted (silent : row.action ∉ lifecycleActions) : ¬SaysDeleted target row := by
  intro recorded
  rw [recorded.action] at silent
  cases target <;> simp [deletedAction, lifecycleActions] at silent

/-- Creations in a log of two parts. -/
theorem created_append :
    Created (log ++ rows) target ↔ Created log target ∨ Created rows target := by
  simp only [Created, List.mem_append, or_and_right, exists_or]

/-- Deletions in a log of two parts. -/
theorem deleted_append :
    Deleted (log ++ rows) target ↔ Deleted log target ∨ Deleted rows target := by
  simp only [Deleted, List.mem_append, or_and_right, exists_or]

/-- The creations that a row of a creation adds. -/
theorem created_append_created (recorded : SaysCreated target row) :
    Created (log ++ [row]) other ↔ Created log other ∨ other = target := by
  rw [created_append]
  refine or_congr_right ⟨?_, ?_⟩
  · rintro ⟨entry, listed, again⟩
    rw [List.mem_singleton.mp listed] at again
    exact recorded.unique again
  · intro same
    rw [same]
    exact ⟨row, List.mem_singleton_self row, recorded⟩

/-- The row of a creation adds no deletion. -/
theorem deleted_append_created (recorded : SaysCreated target row) :
    Deleted (log ++ [row]) other ↔ Deleted log other := by
  rw [deleted_append]
  refine or_iff_left ?_
  rintro ⟨entry, listed, deleted⟩
  rw [List.mem_singleton.mp listed] at deleted
  exact recorded.not_deleted deleted

/-- The deletions that a row of a deletion adds. -/
theorem deleted_append_deleted (recorded : SaysDeleted target row) :
    Deleted (log ++ [row]) other ↔ Deleted log other ∨ other = target := by
  rw [deleted_append]
  refine or_congr_right ⟨?_, ?_⟩
  · rintro ⟨entry, listed, again⟩
    rw [List.mem_singleton.mp listed] at again
    exact recorded.unique again
  · intro same
    rw [same]
    exact ⟨row, List.mem_singleton_self row, recorded⟩

/-- The row of a deletion adds no creation. -/
theorem created_append_deleted (recorded : SaysDeleted target row) :
    Created (log ++ [row]) other ↔ Created log other := by
  rw [created_append]
  refine or_iff_left ?_
  rintro ⟨entry, listed, created⟩
  rw [List.mem_singleton.mp listed] at created
  exact created.not_deleted recorded

/-- Rows about anything else add no creation. -/
theorem created_append_silent (silent : ∀ row ∈ rows, row.action ∉ lifecycleActions) :
    Created (log ++ rows) other ↔ Created log other := by
  rw [created_append]
  refine or_iff_left ?_
  rintro ⟨entry, listed, created⟩
  exact not_saysCreated (silent entry listed) created

/-- Rows of other actions add no deletion. -/
theorem deleted_append_silent (silent : ∀ row ∈ rows, row.action ∉ lifecycleActions) :
    Deleted (log ++ rows) other ↔ Deleted log other := by
  rw [deleted_append]
  refine or_iff_left ?_
  rintro ⟨entry, listed, deleted⟩
  exact not_saysDeleted (silent entry listed) deleted

end Rows

/-! ## The summary of an authorization -/

/-- The part of a summary that follows the principal. -/
def grantText (row : Authorization) : List Char :=
  ' ' :: ("-> dg#".toList ++ (row.deviceGroupId.repr.toList ++
    ' ' :: ("profile#".toList ++ row.privilegeProfileId.repr.toList)))

/-- The part of a summary that names the principal and what follows it determine the principal's id,
the device group and the profile. -/
theorem grantText_inj {row other : Authorization} {first second : Nat}
    (same : first.repr.toList ++ grantText row = second.repr.toList ++ grantText other) :
    first = second ∧ row.deviceGroupId = other.deviceGroupId ∧
      row.privilegeProfileId = other.privilegeProfileId := by
  have plain : ' '.isDigit = false := by decide
  obtain ⟨principals, grants⟩ := Text.repr_append_inj plain same
  obtain ⟨groups, profiles⟩ := Text.repr_append_inj plain (List.append_cancel_left grants)
  exact ⟨principals, groups, Text.repr_toList_inj (List.append_cancel_left profiles)⟩

/-- What follows the principal in the summary. -/
theorem toList_grant (row : Authorization) :
    (s!" -> dg#{row.deviceGroupId} profile#{row.privilegeProfileId}").toList = grantText row := by
  have first : " -> dg#".toList = ' ' :: "-> dg#".toList := by decide
  have second : " profile#".toList = ' ' :: "profile#".toList := by decide
  simp only [String.toList_append, toString, List.append_assoc, first, second, List.cons_append,
    grantText]

/-- The summary about a user. -/
theorem authorizationSummary_user {row : Authorization} {userId : Nat}
    (principal : row.principalUserId = some userId) :
    (authorizationSummary row).toList =
      "user#".toList ++ (userId.repr.toList ++ grantText row) := by
  rw [authorizationSummary, principal, String.toList_append, toList_grant]
  simp only [String.toList_append, toString, List.append_assoc]

/-- The summary about an AD group. -/
theorem authorizationSummary_adGroup {row : Authorization} {adGroupId : Nat}
    (user : row.principalUserId = none) (principal : row.principalAdGroupId = some adGroupId) :
    (authorizationSummary row).toList =
      "ad_group#".toList ++ (adGroupId.repr.toList ++ grantText row) := by
  rw [authorizationSummary, user, principal, String.toList_append, toList_grant]
  simp only [String.toList_append, toString, List.append_assoc, Option.getD_some]

/-- The principal of an authorization is a user, or else an AD group. -/
theorem principal_cases (row : Authorization) :
    (∃ userId, row.principalUserId = some userId ∧ row.principalAdGroupId = none) ∨
      ∃ adGroupId, row.principalUserId = none ∧ row.principalAdGroupId = some adGroupId := by
  have one := row.exactlyOnePrincipal
  cases user : row.principalUserId <;> cases group : row.principalAdGroupId <;>
    simp [user, group] at one ⊢

/-- The summary of an authorization and its id determine it. -/
theorem authorizationSummary_inj {row other : Authorization} (ids : row.id = other.id)
    (same : authorizationSummary row = authorizationSummary other) : row = other := by
  have texts := congrArg String.toList same
  have fields : row.principalUserId = other.principalUserId ∧
      row.principalAdGroupId = other.principalAdGroupId ∧
        row.deviceGroupId = other.deviceGroupId ∧
          row.privilegeProfileId = other.privilegeProfileId := by
    rcases principal_cases row with ⟨first, user, group⟩ | ⟨first, user, group⟩ <;>
      rcases principal_cases other with ⟨second, userToo, groupToo⟩ | ⟨second, userToo, groupToo⟩
    · rw [authorizationSummary_user user, authorizationSummary_user userToo] at texts
      obtain ⟨principals, rest⟩ := grantText_inj (List.append_cancel_left texts)
      rw [user, userToo, group, groupToo, principals]
      exact ⟨rfl, rfl, rest⟩
    · rw [authorizationSummary_user user, authorizationSummary_adGroup userToo groupToo] at texts
      have letters : 'u' = 'a' := (List.cons.inj texts).1
      exact absurd letters (by decide)
    · rw [authorizationSummary_adGroup user group, authorizationSummary_user userToo] at texts
      have letters : 'a' = 'u' := (List.cons.inj texts).1
      exact absurd letters (by decide)
    · rw [authorizationSummary_adGroup user group, authorizationSummary_adGroup userToo groupToo]
        at texts
      obtain ⟨principals, rest⟩ := grantText_inj (List.append_cancel_left texts)
      rw [user, userToo, group, groupToo, principals]
      exact ⟨rfl, rfl, rest⟩
  obtain ⟨id, userId, adGroupId, deviceGroupId, profileId, one⟩ := row
  obtain ⟨otherId, otherUserId, otherGroupId, otherDeviceGroupId, otherProfileId, oneToo⟩ := other
  simp only [Authorization.mk.injEq]
  exact ⟨ids, fields⟩

/-! ## What one change does to the resources -/

/-- The id that the next resource of a kind gets. -/
def nextId (sequences : AdminSequences) : Target → Nat
  | .device _ => sequences.device
  | .deviceGroup _ => sequences.deviceGroup
  | .privilegeProfile _ => sequences.privilegeProfile
  | .authorization _ => sequences.authorization

/-- The deletion of a target ends an authorization. -/
def Ends (target : Target) (authorization : Authorization) : Prop :=
  target = .authorization authorization.id ∨ target = .deviceGroup authorization.deviceGroupId

/-- What a documented change does to the resources. -/
inductive ResourceStep (tables : AdminTables) (sequences : AdminSequences) (row : AuditLog)
    (after : AdminTables) : Prop where
  /-- A resource is created. The device group of a new authorization is there. -/
  | created {target : Target} (recorded : SaysCreated target row)
    (numbered : target.id = nextId sequences target)
    (present : target.Listed after)
    (listed : ∀ other, Target.isPlain other = true →
      (other.Listed after ↔ other.Listed tables ∨ other = target))
    (granted : ∀ authorization, authorization ∈ after.authorizations ↔
      authorization ∈ tables.authorizations ∨
        target = .authorization authorization.id ∧
          row.summary = some (authorizationSummary authorization))
    (grouped : ∀ authorization, target = .authorization authorization.id →
      row.summary = some (authorizationSummary authorization) →
        (Target.deviceGroup authorization.deviceGroupId).Listed tables)
  /-- A resource is deleted, and with a device group the authorizations about it. -/
  | deleted {target : Target} (recorded : SaysDeleted target row) (present : target.Listed tables)
    (listed : ∀ other, Target.isPlain other = true →
      (other.Listed after ↔ other.Listed tables ∧ other ≠ target))
    (ended : ∀ authorization, authorization ∈ after.authorizations ↔
      authorization ∈ tables.authorizations ∧ ¬Ends target authorization)
  /-- A resource is edited. -/
  | edited (silent : row.action ∉ lifecycleActions)
    (listed : ∀ other, Target.isPlain other = true → (other.Listed after ↔ other.Listed tables))
    (same : after.authorizations = tables.authorizations)

section Steps

variable {tables after : AdminTables} {sequences moved : AdminSequences} {rowId : Nat}
  {row : AuditLog}

/-- After an insertion the keys are those from before and that of the new row. -/
theorem exists_key_insertRow {Row : Type} {key : Row → Nat} {rows : List Row} {added : Row}
    {value : Nat} :
    (∃ other ∈ rows ++ [added], key other = value) ↔
      (∃ other ∈ rows, key other = value) ∨ value = key added := by
  simp only [List.mem_append, List.mem_singleton, or_and_right, exists_or, exists_eq_left,
    eq_comm (a := value)]

/-- After a deletion the keys are those from before but for the deleted one. -/
theorem exists_key_deleteKey {Row : Type} {key : Row → Nat} {rows : List Row}
    {deleted value : Nat} :
    (∃ other ∈ rows.filter fun other => key other ≠ deleted, key other = value) ↔
      (∃ other ∈ rows, key other = value) ∧ value ≠ deleted := by
  simp only [List.mem_filter, decide_eq_true_eq]
  constructor
  · rintro ⟨other, ⟨listed, different⟩, same⟩
    rw [same] at different
    exact ⟨⟨other, listed, same⟩, different⟩
  · rintro ⟨⟨other, listed, same⟩, different⟩
    rw [← same] at different
    exact ⟨other, ⟨listed, different⟩, same⟩

/-- Writing columns of a device changes no key. -/
theorem exists_key_apply {devices : List Device} {deviceId value : Nat} {columns : DeviceColumns} :
    (∃ other ∈ devices.map fun device =>
        if device.id = deviceId then columns.apply device else device, other.id = value) ↔
      ∃ other ∈ devices, other.id = value := by
  have kept : ∀ device : Device,
      (if device.id = deviceId then columns.apply device else device).id = device.id := by
    intro device
    split <;> rfl
  simp only [List.mem_map, exists_exists_and_eq_and, kept]

/-- A new row of a table that no authorization depends on. -/
theorem resourceStep_insert {target : Target} (plain : Target.isPlain target = true)
    (recorded : SaysCreated target row) (numbered : target.id = nextId sequences target)
    (listed : ∀ other, Target.isPlain other = true →
      (other.Listed after ↔ other.Listed tables ∨ other = target))
    (same : after.authorizations = tables.authorizations) :
    ResourceStep tables sequences row after := by
  have different : ∀ authorization : Authorization, target ≠ .authorization authorization.id := by
    intro authorization equal
    rw [equal] at plain
    cases plain
  refine .created recorded numbered ((listed target plain).mpr (.inr rfl)) listed ?_ ?_
  · intro authorization
    rw [same]
    exact (or_iff_left fun new => different authorization new.1).symm
  · intro authorization equal
    exact absurd equal (different authorization)

/-- A row less of a table that no authorization depends on. -/
theorem resourceStep_delete {target : Target} (recorded : SaysDeleted target row)
    (present : target.Listed tables)
    (listed : ∀ other, Target.isPlain other = true →
      (other.Listed after ↔ other.Listed tables ∧ other ≠ target))
    (free : ∀ authorization, ¬Ends target authorization)
    (same : after.authorizations = tables.authorizations) :
    ResourceStep tables sequences row after := by
  refine .deleted recorded present listed fun authorization => ?_
  rw [same]
  exact (and_iff_left (free authorization)).symm

/-- What a documented change does. -/
theorem documents_resourceStep {change : AdminChange}
    (taken : adminEngine change tables sequences = (.ok (after, rowId), moved))
    (documents : Documents tables change rowId row) :
    ResourceStep tables sequences row after := by
  have answer := congrArg Prod.fst taken
  cases documents with
  | insertDevice recorded =>
    obtain ⟨-, same, ids⟩ := statement_eq_ok answer
    subst same ids
    refine resourceStep_insert rfl recorded rfl ?_ rfl
    intro other plain
    cases other with
    | device id => simp only [Target.Listed, exists_key_insertRow, Target.device.injEq]
    | authorization id => cases plain
    | _ => simp [Target.Listed]
  | insertDeviceGroup recorded =>
    obtain ⟨-, same, ids⟩ := statement_eq_ok answer
    subst same ids
    refine resourceStep_insert rfl recorded rfl ?_ rfl
    intro other plain
    cases other with
    | deviceGroup id => simp only [Target.Listed, exists_key_insertRow, Target.deviceGroup.injEq]
    | authorization id => cases plain
    | _ => simp [Target.Listed]
  | insertPrivilegeProfile recorded =>
    obtain ⟨-, same, ids⟩ := statement_eq_ok answer
    subst same ids
    refine resourceStep_insert rfl recorded rfl ?_ rfl
    intro other plain
    cases other with
    | privilegeProfile id =>
      simp only [Target.Listed, exists_key_insertRow, Target.privilegeProfile.injEq]
    | authorization id => cases plain
    | _ => simp [Target.Listed]
  | insertAuthorization recorded described =>
    rename_i authorization
    obtain ⟨fine, same, ids⟩ := statement_eq_ok answer
    subst same ids
    obtain ⟨-, -, group, -, -⟩ := authorizationBroken_eq_false fine
    -- The summary does not depend on the id that the row gets.
    have inserted : ∀ other : Authorization,
        Target.authorization sequences.authorization = .authorization other.id ∧
          row.summary = some (authorizationSummary other) ↔
        other = { authorization with id := sequences.authorization } := by
      intro other
      constructor
      · rintro ⟨ids, summary⟩
        have texts : authorizationSummary other = authorizationSummary authorization :=
          Option.some.inj (summary.symm.trans described)
        exact authorizationSummary_inj (Target.authorization.inj ids).symm texts
      · intro same
        rw [same]
        exact ⟨rfl, described⟩
    refine .created recorded rfl ?_ ?_ ?_ ?_
    · exact ⟨_, List.mem_append_right _ (List.mem_singleton_self _), rfl⟩
    · intro other plain
      cases other with
      | authorization id => cases plain
      | _ => simp [Target.Listed]
    · intro other
      rw [inserted other, List.mem_append, List.mem_singleton]
    · intro other ids summary
      rw [(inserted other).mp ⟨ids, summary⟩]
      exact group
  | deleteDevice recorded listed =>
    cases answer
    refine resourceStep_delete recorded listed ?_ (fun _ => by simp [Ends]) rfl
    intro other plain
    cases other with
    | device id => simp only [Target.Listed, exists_key_deleteKey, ne_eq, Target.device.injEq]
    | authorization id => cases plain
    | _ => simp [Target.Listed]
  | deletePrivilegeProfile recorded listed =>
    change deletePrivilegeProfileRow tables _ = .ok (after, rowId) at answer
    unfold deletePrivilegeProfileRow at answer
    obtain ⟨-, same, -⟩ := statement_eq_ok answer
    subst same
    refine resourceStep_delete recorded listed ?_ (fun _ => by simp [Ends]) rfl
    intro other plain
    cases other with
    | privilegeProfile id =>
      simp only [Target.Listed, exists_key_deleteKey, ne_eq, Target.privilegeProfile.injEq]
    | authorization id => cases plain
    | _ => simp [Target.Listed]
  | deleteDeviceGroup recorded listed =>
    change deleteDeviceGroupRow tables _ = .ok (after, rowId) at answer
    unfold deleteDeviceGroupRow at answer
    obtain ⟨-, same, -⟩ := statement_eq_ok answer
    subst same
    refine .deleted recorded listed ?_ ?_
    · intro other plain
      cases other with
      | deviceGroup id =>
        simp only [Target.Listed, exists_key_deleteKey, ne_eq, Target.deviceGroup.injEq]
      | authorization id => cases plain
      | _ => simp [Target.Listed]
    · intro authorization
      simp only [List.mem_filter, decide_eq_true_eq, Ends, reduceCtorEq, Target.deviceGroup.injEq,
        false_or, ne_eq, eq_comm (b := authorization.deviceGroupId)]
  | deleteAuthorization recorded listed =>
    cases answer
    refine .deleted recorded listed ?_ ?_
    · intro other plain
      cases other with
      | authorization id => cases plain
      | _ => simp [Target.Listed]
    · intro authorization
      simp only [List.mem_filter, decide_eq_true_eq, Ends, reduceCtorEq, Target.authorization.injEq,
        or_false, ne_eq, eq_comm (b := authorization.id)]
  | updateDevice silent =>
    simp only [adminEngine, writeDevice] at answer
    split at answer
    · cases answer
      exact .edited silent (fun _ _ => Iff.rfl) rfl
    · obtain ⟨-, same, -⟩ := statement_eq_ok answer
      subst same
      refine .edited silent ?_ rfl
      intro other plain
      cases other with
      | device id => exact exists_key_apply
      | authorization id => cases plain
      | _ => exact Iff.rfl
  | replaceDeviceGroup silent =>
    obtain ⟨-, same, -⟩ := statement_eq_ok answer
    subst same
    refine .edited silent ?_ rfl
    intro other plain
    cases other with
    | deviceGroup id => exact exists_key_replaceRow
    | authorization id => cases plain
    | _ => exact Iff.rfl
  | replacePrivilegeProfile silent =>
    obtain ⟨-, same, -⟩ := statement_eq_ok answer
    subst same
    refine .edited silent ?_ rfl
    intro other plain
    cases other with
    | privilegeProfile id => exact exists_key_replaceRow
    | authorization id => cases plain
    | _ => exact Iff.rfl

end Steps

end TacacsWeb.Verif
