import TacacsWeb.Model.AdminRequests
import TacacsWeb.Verif.DeviceEdits

/-!
# What one statement changes

A statement that the database takes adds, edits or removes the one row it is about, leaves every
other row of every table, keeps the constraints, and does not touch the audit log. The tables
without numbered rows are what the changes since the start make of them.
-/

namespace TacacsWeb.Verif

open TacacsWeb.Library TacacsWeb.Library.UnitOfWork TacacsWeb.Model

/-! ## Targets -/

/-- The row that a request is about. -/
inductive Target where
  /-- A row of `device`. -/
  | device (id : Nat)
  /-- A row of `device_group`. -/
  | deviceGroup (id : Nat)
  /-- A row of `privilege_profile`. -/
  | privilegeProfile (id : Nat)
  /-- A row of `authorization`. -/
  | authorization (id : Nat)
deriving DecidableEq

namespace Target

/-- The primary key. -/
def id : Target → Nat
  | .device id | .deviceGroup id | .privilegeProfile id | .authorization id => id

/-- The name under which the audit log knows the table. -/
def kind : Target → String
  | .device _ => "device"
  | .deviceGroup _ => "device_group"
  | .privilegeProfile _ => "privilege_profile"
  | .authorization _ => "authorization"

/-- The row is there. -/
def Listed (tables : AdminTables) : Target → Prop
  | .device id => ∃ row ∈ tables.devices, row.id = id
  | .deviceGroup id => ∃ row ∈ tables.deviceGroups, row.id = id
  | .privilegeProfile id => ∃ row ∈ tables.privilegeProfiles, row.id = id
  | .authorization id => ∃ row ∈ tables.authorizations, row.id = id

/-- Everything but the row and the audit log. The accounting records of a device keep all but their
reference to it. -/
def others (tables : AdminTables) : Target → AdminTables
  | .device id =>
    { tables with
      devices := tables.devices.filter fun row => row.id ≠ id
      accountingDeviceIds := tables.accountingDeviceIds.map fun reference =>
        if reference = some id then none else reference
      auditLog := [] }
  | .deviceGroup id =>
    { tables with
      deviceGroups := tables.deviceGroups.filter fun row => row.id ≠ id
      auditLog := [] }
  | .privilegeProfile id =>
    { tables with
      privilegeProfiles := tables.privilegeProfiles.filter fun row => row.id ≠ id
      auditLog := [] }
  | .authorization id =>
    { tables with
      authorizations := tables.authorizations.filter fun row => row.id ≠ id
      auditLog := [] }

end Target

/-- What happens to a row. -/
inductive Effect where
  /-- It was not there and is now. -/
  | added
  /-- It was there and still is. -/
  | edited
  /-- It was there and is no longer. -/
  | removed
deriving DecidableEq

/-- The effect on a row between two states of the tables. -/
def Effect.Holds (target : Target) (before after : AdminTables) : Effect → Prop
  | .added => ¬target.Listed before ∧ target.Listed after
  | .edited => target.Listed before ∧ target.Listed after
  | .removed => target.Listed before ∧ ¬target.Listed after

/-- One row has changed, and the constraints hold. -/
structure Changed (fold : CaseFolding) (effect : Effect) (target : Target)
    (before after : AdminTables) : Prop where
  /-- Nothing else is different. -/
  others : target.others after = target.others before
  /-- What happened to the row. -/
  effect : effect.Holds target before after
  /-- Primary keys, unique columns and foreign keys. -/
  constraints : after.Valid fold
  /-- The audit log is as it was. -/
  auditLog : after.auditLog = before.auditLog

variable {fold : CaseFolding} {tables after : AdminTables} {rowId : Nat}

/-- A statement goes through when its values fit and break no constraint. -/
theorem statement_eq_ok {fits broken : Bool} {written : AdminTables} {id : Nat}
    (taken : statement fits broken written id = .ok (after, rowId)) :
    broken = false ∧ after = written ∧ rowId = id := by
  cases fits <;> cases broken <;> simp [statement] at taken ⊢
  exact ⟨taken.1.symm, taken.2.symm⟩

/-- A statement that goes through has values that fit. -/
theorem statement_fits {fits broken : Bool} {written : AdminTables} {id : Nat}
    (taken : statement fits broken written id = .ok (after, rowId)) : fits = true := by
  cases fits with
  | true => rfl
  | false => simp [statement] at taken

/-! ## Devices -/

/-- Inserting a device adds its row and changes no other. -/
theorem insertDevice_changed {sequences : AdminSequences} {row : Device} (valid : tables.Valid fold)
    (taken : writeDevice tables sequences (.insert row) = .ok (after, rowId)) :
    Changed fold .added (.device rowId) tables after := by
  obtain ⟨fine, rfl, rfl⟩ := statement_eq_ok taken
  have checks := Bool.or_eq_false_iff.mp fine
  have fresh : ∀ other ∈ tables.devices, other.id ≠ sequences.device := by
    simpa using checks.1
  obtain ⟨names, ips, groups⟩ := violates_eq_false_iff.mp checks.2
  exact {
    others := by
      simp only [Target.others, AdminTables.mk.injEq, and_true, true_and]
      exact filter_insertRow Device.id { row with id := sequences.device }
    effect := by
      constructor
      · rintro ⟨other, listed, same⟩
        exact fresh other listed same
      · exact ⟨_, List.mem_append_right _ (List.mem_singleton_self _), rfl⟩
    constraints := { valid with
      deviceId := nodup_map_insertRow valid.deviceId fresh
      deviceName := nodup_map_insertRow valid.deviceName fun other listed =>
        names row.name rfl other listed (fresh other listed)
      deviceIpOrCidr := nodup_map_insertRow valid.deviceIpOrCidr fun other listed =>
        ips row.ipOrCidr rfl other listed (fresh other listed)
      deviceGroup := by
        intro device listed
        rcases List.mem_append.mp listed with present | last
        · exact valid.deviceGroup device present
        · rw [List.mem_singleton.mp last]
          exact groups row.deviceGroupId rfl
      accountingDevice := by
        intro deviceId referred
        obtain ⟨device, listed, same⟩ := valid.accountingDevice deviceId referred
        exact ⟨device, List.mem_append_left _ listed, same⟩ }
    auditLog := rfl }

/-- Writing columns of a device replaces its row. -/
theorem map_apply_eq_replaceRow {devices : List Device} {row : Device} (columns : DeviceColumns)
    (distinct : (devices.map Device.id).Nodup) (listed : row ∈ devices) :
    (devices.map fun device => if device.id = row.id then columns.apply device else device) =
      replaceRow Device.id (columns.apply row) devices := by
  refine List.map_congr_left fun device present => ?_
  by_cases mine : device.id = row.id
  · have equal : device = row := List.inj_on_of_nodup_map distinct present listed mine
    rw [equal]
    rfl
  · have other : ¬device.id = (columns.apply row).id := mine
    rw [if_neg mine, if_neg other]

/-- Editing a device changes its row and no other. -/
theorem updateDevice_changed {sequences : AdminSequences} {row : Device} {columns : DeviceColumns}
    (valid : tables.Valid fold) (listed : row ∈ tables.devices)
    (taken : writeDevice tables sequences (.update row.id columns) = .ok (after, rowId)) :
    rowId = row.id ∧ Changed fold .edited (.device row.id) tables after := by
  simp only [writeDevice] at taken
  have here : (Target.device row.id).Listed tables := ⟨row, listed, rfl⟩
  split at taken
  · cases taken
    exact ⟨rfl, { others := rfl, effect := ⟨here, here⟩, constraints := valid, auditLog := rfl }⟩
  · obtain ⟨fine, rfl, rfl⟩ := statement_eq_ok taken
    refine ⟨rfl, ?_⟩
    obtain ⟨names, ips, groups⟩ := violates_eq_false_iff.mp fine
    have replaced := map_apply_eq_replaceRow columns valid.deviceId listed
    exact {
      others := by
        simp only [Target.others, AdminTables.mk.injEq, and_true, true_and]
        rw [replaced]
        exact filter_replaceRow Device.id (columns.apply row)
      effect := by
        refine ⟨here, columns.apply row, ?_, rfl⟩
        change columns.apply row ∈ tables.devices.map _
        rw [replaced]
        exact mem_replaceRow_self ⟨row, listed, rfl⟩
      constraints := { valid with
        deviceId := by
          rw [replaced, map_key_replaceRow]
          exact valid.deviceId
        deviceName := by
          rw [replaced]
          refine nodup_map_replaceRow valid.deviceId valid.deviceName fun other present away => ?_
          exact ne_getD_of_unique valid.deviceName listed present away names
        deviceIpOrCidr := by
          rw [replaced]
          refine nodup_map_replaceRow valid.deviceId valid.deviceIpOrCidr
            fun other present away => ?_
          exact ne_getD_of_unique valid.deviceIpOrCidr listed present away ips
        deviceGroup := by
          intro device present
          change device ∈ tables.devices.map _ at present
          rw [replaced] at present
          rcases mem_replaceRow present with rfl | ⟨before, -⟩
          · change ∃ group ∈ tables.deviceGroups,
              group.id = columns.deviceGroupId.getD row.deviceGroupId
            cases written : columns.deviceGroupId with
            | none => exact valid.deviceGroup row listed
            | some groupId => exact groups groupId written
          · exact valid.deviceGroup device before
        accountingDevice := by
          intro deviceId referred
          have present := valid.accountingDevice deviceId referred
          change ∃ device : Device, device ∈ tables.devices.map _ ∧ device.id = deviceId
          rw [replaced]
          exact exists_key_replaceRow.mpr present }
      auditLog := rfl }

/-- Deleting a device removes its row and changes no other. -/
theorem deleteDevice_changed {sequences : AdminSequences} {row : Device}
    (valid : tables.Valid fold) (listed : row ∈ tables.devices)
    (taken : writeDevice tables sequences (.delete row.id) = .ok (after, rowId)) :
    Changed fold .removed (.device row.id) tables after := by
  unfold writeDevice at taken
  cases taken
  exact {
    others := by
      simp only [Target.others, List.filter_filter, Bool.and_self, List.map_map]
      congr 2
      funext reference
      by_cases mine : reference = some row.id
      · simp [mine]
      · simp [mine]
    effect := by
      refine ⟨⟨row, listed, rfl⟩, ?_⟩
      rintro ⟨other, present, same⟩
      have away := (List.mem_filter.mp present).2
      exact of_decide_eq_true away same
    constraints := { valid with
      deviceId := valid.deviceId.sublist (List.filter_sublist.map _)
      deviceName := valid.deviceName.sublist (List.filter_sublist.map _)
      deviceIpOrCidr := valid.deviceIpOrCidr.sublist (List.filter_sublist.map _)
      deviceGroup := fun device present => valid.deviceGroup device (List.mem_filter.mp present).1
      accountingDevice := by
        intro deviceId referred
        obtain ⟨reference, recorded, kept⟩ := List.mem_map.mp referred
        by_cases mine : reference = some row.id
        · simp [mine] at kept
        · rw [if_neg mine] at kept
          subst kept
          obtain ⟨device, present, same⟩ := valid.accountingDevice deviceId recorded
          have away : device.id ≠ row.id := fun equal => mine (by rw [← same, equal])
          exact ⟨device, List.mem_filter.mpr ⟨present, decide_eq_true away⟩, same⟩ }
    auditLog := rfl }

/-! ## Device groups -/

/-- Inserting a device group adds its row and changes no other. -/
theorem insertDeviceGroup_changed {row : DeviceGroup} (valid : tables.Valid fold)
    (taken : insertDeviceGroup tables row = .ok (after, rowId)) :
    Changed fold .added (.deviceGroup rowId) tables after := by
  obtain ⟨fine, rfl, rfl⟩ := statement_eq_ok taken
  have fresh : ∀ other ∈ tables.deviceGroups, other.id ≠ row.id ∧ other.name ≠ row.name := by
    simpa using fine
  have kept : ∀ groupId, (∃ group ∈ tables.deviceGroups, group.id = groupId) →
      ∃ group ∈ tables.deviceGroups ++ [row], group.id = groupId := by
    rintro groupId ⟨group, listed, same⟩
    exact ⟨group, List.mem_append_left _ listed, same⟩
  exact {
    others := by
      simp only [Target.others, filter_insertRow]
    effect := by
      constructor
      · rintro ⟨other, listed, same⟩
        exact (fresh other listed).1 same
      · exact ⟨row, List.mem_append_right _ (List.mem_singleton_self _), rfl⟩
    constraints := { valid with
      deviceGroupId := nodup_map_insertRow valid.deviceGroupId fun other listed =>
        (fresh other listed).1
      deviceGroupName := nodup_map_insertRow valid.deviceGroupName fun other listed =>
        (fresh other listed).2
      deviceGroup := fun device listed => kept _ (valid.deviceGroup device listed)
      authorizationDeviceGroup := fun edge listed =>
        kept _ (valid.authorizationDeviceGroup edge listed) }
    auditLog := rfl }

/-- Editing a device group changes its row and no other. -/
theorem replaceDeviceGroup_changed {row edited : DeviceGroup} (valid : tables.Valid fold)
    (listed : row ∈ tables.deviceGroups) (same : edited.id = row.id)
    (taken : replaceDeviceGroup tables edited = .ok (after, rowId)) :
    rowId = row.id ∧ Changed fold .edited (.deviceGroup row.id) tables after := by
  obtain ⟨fine, rfl, rfl⟩ := statement_eq_ok taken
  have free : ∀ other ∈ tables.deviceGroups, other.id ≠ edited.id → other.name ≠ edited.name := by
    simpa using fine
  have here : ∃ other ∈ tables.deviceGroups, other.id = edited.id := ⟨row, listed, same.symm⟩
  refine ⟨same, ?_⟩
  rw [← same]
  exact {
    others := by
      simp only [Target.others, filter_replaceRow]
    effect := ⟨here, edited, mem_replaceRow_self here, rfl⟩
    constraints := { valid with
      deviceGroupId := by
        rw [map_key_replaceRow]
        exact valid.deviceGroupId
      deviceGroupName := nodup_map_replaceRow valid.deviceGroupId valid.deviceGroupName free
      deviceGroup := fun device present =>
        exists_key_replaceRow.mpr (valid.deviceGroup device present)
      authorizationDeviceGroup := fun edge present =>
        exists_key_replaceRow.mpr (valid.authorizationDeviceGroup edge present) }
    auditLog := rfl }

/-! ## Privilege profiles -/

/-- A name that is not taken belongs to no other row. -/
theorem nameTaken_eq_false {profiles : List PrivilegeProfile} {profileId : Nat} {name : String}
    (free : nameTaken profiles profileId name = false) :
    ∀ other ∈ profiles, other.id ≠ profileId → other.name ≠ name := by
  simpa [nameTaken] using free

/-- Inserting a profile adds its row and changes no other. -/
theorem insertPrivilegeProfile_changed {row : PrivilegeProfile} (valid : tables.Valid fold)
    (taken : insertPrivilegeProfile tables row = .ok (after, rowId)) :
    Changed fold .added (.privilegeProfile rowId) tables after := by
  obtain ⟨fine, rfl, rfl⟩ := statement_eq_ok taken
  have checks := Bool.or_eq_false_iff.mp fine
  have fresh : ∀ other ∈ tables.privilegeProfiles, other.id ≠ row.id := by
    simpa using checks.1
  have free := nameTaken_eq_false checks.2
  exact {
    others := by
      simp only [Target.others, filter_insertRow]
    effect := by
      constructor
      · rintro ⟨other, listed, same⟩
        exact fresh other listed same
      · exact ⟨row, List.mem_append_right _ (List.mem_singleton_self _), rfl⟩
    constraints := { valid with
      privilegeProfileId := nodup_map_insertRow valid.privilegeProfileId fresh
      privilegeProfileName := nodup_map_insertRow valid.privilegeProfileName fun other listed =>
        free other listed (fresh other listed)
      authorizationProfile := by
        intro edge listed
        obtain ⟨profile, present, same⟩ := valid.authorizationProfile edge listed
        exact ⟨profile, List.mem_append_left _ present, same⟩ }
    auditLog := rfl }

/-- Editing a profile changes its row and no other. -/
theorem replacePrivilegeProfile_changed {row edited : PrivilegeProfile} (valid : tables.Valid fold)
    (listed : row ∈ tables.privilegeProfiles) (same : edited.id = row.id)
    (taken : replacePrivilegeProfile tables edited = .ok (after, rowId)) :
    rowId = row.id ∧ Changed fold .edited (.privilegeProfile row.id) tables after := by
  obtain ⟨fine, rfl, rfl⟩ := statement_eq_ok taken
  have free := nameTaken_eq_false fine
  have here : ∃ other ∈ tables.privilegeProfiles, other.id = edited.id := ⟨row, listed, same.symm⟩
  refine ⟨same, ?_⟩
  rw [← same]
  exact {
    others := by
      simp only [Target.others, filter_replaceRow]
    effect := ⟨here, edited, mem_replaceRow_self here, rfl⟩
    constraints := { valid with
      privilegeProfileId := by
        rw [map_key_replaceRow]
        exact valid.privilegeProfileId
      privilegeProfileName :=
        nodup_map_replaceRow valid.privilegeProfileId valid.privilegeProfileName free
      authorizationProfile := fun edge present =>
        exists_key_replaceRow.mpr (valid.authorizationProfile edge present) }
    auditLog := rfl }

/-- A removed profile: no authorization grants it. -/
theorem deletePrivilegeProfile_changed {row : PrivilegeProfile} (valid : tables.Valid fold)
    (listed : row ∈ tables.privilegeProfiles)
    (taken : deletePrivilegeProfileRow tables row.id = .ok (after, rowId)) :
    Changed fold .removed (.privilegeProfile row.id) tables after := by
  obtain ⟨fine, rfl, rfl⟩ := statement_eq_ok taken
  have unused : ∀ edge ∈ tables.authorizations, edge.privilegeProfileId ≠ row.id := by
    simpa using fine
  exact {
    others := by
      simp only [Target.others, List.filter_filter, Bool.and_self]
    effect := by
      refine ⟨⟨row, listed, rfl⟩, ?_⟩
      rintro ⟨other, present, same⟩
      have away := (List.mem_filter.mp present).2
      exact of_decide_eq_true away same
    constraints := { valid with
      privilegeProfileId := valid.privilegeProfileId.sublist (List.filter_sublist.map _)
      privilegeProfileName := valid.privilegeProfileName.sublist (List.filter_sublist.map _)
      authorizationProfile := by
        intro edge present
        obtain ⟨profile, there, same⟩ := valid.authorizationProfile edge present
        have away : profile.id ≠ row.id := same ▸ unused edge present
        exact ⟨profile, List.mem_filter.mpr ⟨there, decide_eq_true away⟩, same⟩ }
    auditLog := rfl }

/-! ## Authorizations -/

/-- What a new authorization has to meet. -/
theorem authorizationBroken_eq_false {row : Authorization}
    (fine : authorizationBroken tables row = false) :
    (∀ userId ∈ row.principalUserId, ∃ user ∈ tables.identity.users, user.id = userId) ∧
      (∀ groupId ∈ row.principalAdGroupId, ∃ group ∈ tables.identity.adGroups,
        group.id = groupId) ∧
      (∃ group ∈ tables.deviceGroups, group.id = row.deviceGroupId) ∧
      (∃ profile ∈ tables.privilegeProfiles, profile.id = row.privilegeProfileId) ∧
      ∀ other ∈ tables.authorizations, other.id ≠ row.id ∧
        (∀ edge ∈ row.userEdge, other.userEdge ≠ some edge) ∧
        ∀ edge ∈ row.adGroupEdge, other.adGroupEdge ≠ some edge := by
  simp only [authorizationBroken, Bool.or_eq_false_iff] at fine
  obtain ⟨⟨⟨⟨users, adGroups⟩, groups⟩, profiles⟩, edges⟩ := fine
  refine ⟨?_, ?_, by simpa using groups, by simpa using profiles, ?_⟩
  · intro userId given
    rw [Option.mem_def.mp given] at users
    simpa using users
  · intro groupId given
    rw [Option.mem_def.mp given] at adGroups
    simpa using adGroups
  · intro other listed
    have checks := List.any_eq_false.mp edges other listed
    simp only [Bool.or_eq_true, decide_eq_true_eq, Bool.and_eq_true, not_or, not_and] at checks
    refine ⟨checks.1.1, ?_, ?_⟩
    · intro edge given same
      have held := Option.mem_def.mp given
      exact checks.1.2 (by rw [held]; rfl) (same.trans held.symm)
    · intro edge given same
      have held := Option.mem_def.mp given
      exact checks.2 (by rw [held]; rfl) (same.trans held.symm)

/-- An inserted authorization. -/
theorem insertAuthorization_changed {row : Authorization} (valid : tables.Valid fold)
    (taken : insertAuthorization tables row = .ok (after, rowId)) :
    Changed fold .added (.authorization rowId) tables after := by
  obtain ⟨fine, rfl, rfl⟩ := statement_eq_ok taken
  obtain ⟨users, adGroups, groups, profiles, edges⟩ := authorizationBroken_eq_false fine
  -- A reference holds of the rows that there were, and of the new one.
  have referring : ∀ refers : Authorization → Prop,
      (∀ edge ∈ tables.authorizations, refers edge) → refers row →
        ∀ edge ∈ tables.authorizations ++ [row], refers edge := by
    intro refers before new edge listed
    rcases List.mem_append.mp listed with present | last
    · exact before edge present
    · rw [List.mem_singleton.mp last]
      exact new
  exact {
    others := by
      simp only [Target.others, filter_insertRow]
    effect := by
      constructor
      · rintro ⟨other, listed, same⟩
        exact (edges other listed).1 same
      · exact ⟨row, List.mem_append_right _ (List.mem_singleton_self _), rfl⟩
    constraints := { valid with
      authorizationId := nodup_map_insertRow valid.authorizationId fun other listed =>
        (edges other listed).1
      authorizationUserEdge := nodup_filterMap_insertRow valid.authorizationUserEdge
        fun edge given other listed => (edges other listed).2.1 edge given
      authorizationAdGroupEdge := nodup_filterMap_insertRow valid.authorizationAdGroupEdge
        fun edge given other listed => (edges other listed).2.2 edge given
      authorizationUser := referring _ valid.authorizationUser users
      authorizationAdGroup := referring _ valid.authorizationAdGroup adGroups
      authorizationDeviceGroup := referring _ valid.authorizationDeviceGroup groups
      authorizationProfile := referring _ valid.authorizationProfile profiles }
    auditLog := rfl }

/-- A removed authorization. -/
theorem deleteAuthorization_changed {row : Authorization} (valid : tables.Valid fold)
    (listed : row ∈ tables.authorizations)
    (taken : deleteAuthorizationRow tables row.id = .ok (after, rowId)) :
    Changed fold .removed (.authorization row.id) tables after := by
  unfold deleteAuthorizationRow at taken
  cases taken
  have before : ∀ edge : Authorization,
      edge ∈ tables.authorizations.filter (fun other => other.id ≠ row.id) →
        edge ∈ tables.authorizations :=
    fun edge present => (List.mem_filter.mp present).1
  exact {
    others := by
      simp only [Target.others, List.filter_filter, Bool.and_self]
    effect := by
      refine ⟨⟨row, listed, rfl⟩, ?_⟩
      rintro ⟨other, present, same⟩
      have away := (List.mem_filter.mp present).2
      exact of_decide_eq_true away same
    constraints := { valid with
      authorizationId := valid.authorizationId.sublist (List.filter_sublist.map _)
      authorizationUserEdge :=
        valid.authorizationUserEdge.sublist (List.filter_sublist.filterMap _)
      authorizationAdGroupEdge :=
        valid.authorizationAdGroupEdge.sublist (List.filter_sublist.filterMap _)
      authorizationUser := fun edge present => valid.authorizationUser edge (before edge present)
      authorizationAdGroup := fun edge present =>
        valid.authorizationAdGroup edge (before edge present)
      authorizationDeviceGroup := fun edge present =>
        valid.authorizationDeviceGroup edge (before edge present)
      authorizationProfile := fun edge present =>
        valid.authorizationProfile edge (before edge present) }
    auditLog := rfl }

/-! ## The tables without numbered rows -/

/-- The audit log, the settings and the secrets. -/
structure FlatTables where
  /-- `audit_log`. -/
  auditLog : List AuditLog
  /-- `system_setting`. -/
  systemSettings : Dict String String
  /-- `system_secret`. -/
  systemSecrets : Dict String String

/-- The log, the settings and the secrets of the tables. -/
def flatTables (tables : AdminTables) : FlatTables where
  auditLog := tables.auditLog
  systemSettings := tables.systemSettings
  systemSecrets := tables.systemSecrets

/-- What a change does to them. -/
def writeFlat (flat : FlatTables) : AdminChange → FlatTables
  | .systemSetting key value =>
    { flat with systemSettings := writeKey flat.systemSettings key value }
  | .systemSecret key value =>
    { flat with systemSecrets := writeKey flat.systemSecrets key value }
  | .audit row => { flat with auditLog := flat.auditLog ++ [row] }
  | _ => flat

/-- What a statement leaves is what it was to write. -/
theorem statement_flat {fits broken : Bool} {written : AdminTables} {id : Nat} {flat : FlatTables}
    (taken : statement fits broken written id = .ok (after, rowId))
    (same : flatTables written = flat) : flatTables after = flat := by
  have wrote := (statement_eq_ok taken).2.1
  rw [wrote]
  exact same

/-- A change that the database takes does to these tables what is said above. -/
theorem adminEngine_flat {change : AdminChange} {sequences moved : AdminSequences}
    (taken : adminEngine change tables sequences = (.ok (after, rowId), moved)) :
    flatTables after = writeFlat (flatTables tables) change := by
  have answer := congrArg Prod.fst taken
  cases change with
  | device write =>
    cases write with
    | insert row => exact statement_flat answer rfl
    | update deviceId columns =>
      simp only [adminEngine, writeDevice] at answer
      split at answer
      · cases answer
        rfl
      · exact statement_flat answer rfl
    | delete deviceId =>
      cases answer
      rfl
  | insertDeviceGroup name description => exact statement_flat answer rfl
  | replaceDeviceGroup row => exact statement_flat answer rfl
  | deleteDeviceGroup groupId =>
    have row : deleteDeviceGroupRow tables groupId = .ok (after, rowId) := answer
    exact statement_flat row rfl
  | insertPrivilegeProfile payload => exact statement_flat answer rfl
  | replacePrivilegeProfile row => exact statement_flat answer rfl
  | deletePrivilegeProfile profileId =>
    have row : deletePrivilegeProfileRow tables profileId = .ok (after, rowId) := answer
    exact statement_flat row rfl
  | insertAuthorization row => exact statement_flat answer rfl
  | systemSetting key value => exact statement_flat answer rfl
  | audit row => exact statement_flat answer rfl
  | localAdmin username hash cidr lastLoginAt =>
    simp only [adminEngine, putLocalAdmin] at answer
    split at answer
    · exact statement_flat answer rfl
    · cases answer
  | _ =>
    cases answer
    rfl

/-- The log, the settings and the secrets are what a journal makes of those at its start. -/
def Recorded (start : FlatTables) (version : Version AdminTables AdminChange) : Prop :=
  flatTables version.tables = version.journal.foldl writeFlat start

/-- What a script commits to these tables is what its journal says. -/
theorem run_recorded {Answer : Type} (script : Script AdminTables AdminSequences AdminChange Answer)
    (tables : AdminTables) (sequences : AdminSequences) (plan : List Outcome) :
    Recorded (flatTables tables)
      (script.run adminEngine (.start tables sequences) plan).1.durable := by
  have start : Recorded (flatTables tables) (Session.start tables sequences :
    Session AdminTables AdminSequences AdminChange).durable := rfl
  refine Script.run_keeps ?_ script start start plan
  intro version change moved after id next before taken
  unfold Recorded at before ⊢
  rw [List.foldl_append, ← before]
  exact adminEngine_flat taken

end TacacsWeb.Verif
