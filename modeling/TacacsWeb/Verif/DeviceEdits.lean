import TacacsWeb.Library.Result
import TacacsWeb.Library.Table
import TacacsWeb.Model.DeviceEdits

/-!
# What an edit of a device does

`edited` says what an edit makes of the row it loaded, and `Fits` when the tables admit it. The
handlers and their commits are shown to do just that, so that what follows compares edited rows
and not handlers.
-/

namespace TacacsWeb.Verif

open TacacsWeb.Library TacacsWeb.Model

/-- The secret that an edit makes the current one. -/
def newCurrent : DeviceEdit → Option String
  | .update payload => payload.currentSecret.filter fun secret => secret ≠ ""
  | .rotateSecret payload => some payload.newSecret
  | .retirePrevious _ => none

/-- The group that an edit asks for. -/
def newGroup : DeviceEdit → Option Int
  | .update payload => payload.deviceGroupId
  | _ => none

/-- The name that an edit asks for. -/
def newName : DeviceEdit → Option String
  | .update payload => payload.name
  | _ => none

/-- The address that an edit asks for. -/
def newIpOrCidr : DeviceEdit → Option String
  | .update payload => payload.ipOrCidr
  | _ => none

/-- The row as an edit leaves it in the session. -/
def edited (edit : DeviceEdit) (row : Device) : Device :=
  match edit with
  | .update payload =>
    { row with
      name := payload.name.getD row.name
      ipOrCidr := payload.ipOrCidr.getD row.ipOrCidr
      deviceGroupId := (payload.deviceGroupId.map Int.toNat).getD row.deviceGroupId
      description := payload.description.or row.description
      currentSecretEnc := (newCurrent edit).or row.currentSecretEnc }
  | .rotateSecret payload =>
    { row with
      previousSecretEnc := row.currentSecretEnc
      previousRetiredAt := none
      currentSecretEnc := some payload.newSecret }
  | .retirePrevious now => { row with previousSecretEnc := none, previousRetiredAt := some now }

/-- The columns that an edit writes when it loaded a row. -/
def writtenColumns (edit : DeviceEdit) (row : Device) : DeviceColumns :=
  .between row (edited edit row)

/-- Tables with columns of one device written. -/
def withColumns (tables : DeviceTables) (deviceId : Nat) (columns : DeviceColumns) :
    DeviceTables :=
  { tables with devices := tables.devices.map fun device =>
      if device.id = deviceId then columns.apply device else device }

/-! ## Columns -/

/-- The value after a column has been written on the value that was loaded. -/
@[simp]
theorem changedTo_getD {Value : Type} [DecidableEq Value] (loaded value : Value) :
    (changedTo loaded value).getD loaded = value := by
  unfold changedTo
  split
  · next same => rw [same, Option.getD_none]
  · rfl

/-- A column that is written holds the new value. -/
theorem changedTo_eq_some {Value : Type} [DecidableEq Value] {loaded value written : Value} :
    changedTo loaded value = some written ↔ value ≠ loaded ∧ value = written := by
  unfold changedTo
  split
  · next same => simp [same]
  · next different => simp [different]

/-- An edit keeps the id of its row. -/
@[simp]
theorem edited_id (edit : DeviceEdit) (row : Device) : (edited edit row).id = row.id := by
  cases edit <;> rfl

/-- Writing the columns of an edit on the row it loaded gives the edited row. -/
@[simp]
theorem writtenColumns_apply (edit : DeviceEdit) (row : Device) :
    (writtenColumns edit row).apply row = edited edit row := by
  simp only [writtenColumns, DeviceColumns.apply, DeviceColumns.between, changedTo_getD]
  rw [← edited_id edit row]

/-- Empty columns change no row. -/
theorem apply_of_isEmpty {columns : DeviceColumns} (empty : columns.isEmpty = true)
    (row : Device) : columns.apply row = row := by
  have none := of_decide_eq_true empty
  rw [none]
  rfl

/-! ## Loading -/

/-- `session.get` finds the row or raises. -/
theorem getDevice_eq_ok {tables : DeviceTables} {deviceId : Nat} {row : Device} :
    getDevice tables.devices deviceId = .ok row ↔ tables.row deviceId = some row := by
  unfold getDevice DeviceTables.row
  cases tables.devices.find? fun device => device.id = deviceId with
  | none => simp
  | some found => simp

/-- A row that was found has the id that was asked for. -/
theorem row_id {tables : DeviceTables} {deviceId : Nat} {row : Device}
    (found : tables.row deviceId = some row) : row.id = deviceId := by
  unfold DeviceTables.row at found
  simpa using List.find?_some found

/-- A row that was found is in the table under its id. -/
theorem row_eq_some {tables : DeviceTables} {deviceId : Nat} {row : Device}
    (valid : tables.Valid) :
    tables.row deviceId = some row ↔ row ∈ tables.devices ∧ row.id = deviceId := by
  exact find_key_eq_some_iff valid.deviceId

/-- The group that an edit asks for is the one of the row or exists. -/
def GroupKnown (tables : DeviceTables) (edit : DeviceEdit) (row : Device) : Prop :=
  ∀ groupId ∈ newGroup edit, groupId = row.deviceGroupId ∨
    ∃ group ∈ tables.deviceGroups, (group.id : Int) = groupId

/-- The check of a group passes when the group exists. -/
theorem ensureDeviceGroupExists_eq_ok {groups : List DeviceGroup} {groupId : Int} :
    (∃ group, ensureDeviceGroupExists groups groupId = .ok group) ↔
      ∃ group ∈ groups, (group.id : Int) = groupId := by
  unfold ensureDeviceGroupExists
  cases found : groups.find? fun group => (group.id : Int) = groupId with
  | none =>
    rw [List.find?_eq_none] at found
    simpa using found
  | some group =>
    have same : (group.id : Int) = groupId := by simpa using List.find?_some found
    simpa using ⟨group, List.mem_of_find?_eq_some found, same⟩

/-- The group that the check returns is the one asked for. -/
theorem ensureDeviceGroupExists_id {groups : List DeviceGroup} {groupId : Int}
    {group : DeviceGroup} (found : ensureDeviceGroupExists groups groupId = .ok group) :
    group.id = groupId.toNat := by
  unfold ensureDeviceGroupExists at found
  split at found
  · cases found
  · next other listed =>
    obtain rfl := Except.ok.inj found
    have same : (other.id : Int) = groupId := by simpa using List.find?_some listed
    omega

/-- The group field of a PATCH passes when the group is known, and sets it. -/
theorem editDeviceGroup_eq_ok {groups : List DeviceGroup} {row : Device} {given : Option Int}
    {state : Device × List String} (passed : editDeviceGroup groups row given = .ok state) :
    (∀ groupId ∈ given, groupId = row.deviceGroupId ∨
      ∃ group ∈ groups, (group.id : Int) = groupId) ∧
    state.1 = { row with deviceGroupId := (given.map Int.toNat).getD row.deviceGroupId } := by
  unfold editDeviceGroup at passed
  cases given with
  | none =>
    obtain rfl := Except.ok.inj passed
    exact ⟨nofun, rfl⟩
  | some groupId =>
    dsimp only at passed
    split at passed
    · next same =>
      obtain rfl := Except.ok.inj passed
      refine ⟨fun other asked => .inl ?_, ?_⟩
      · rwa [← Option.some.inj asked]
      · rw [same]
        rfl
    · obtain ⟨group, found, rfl⟩ := map_eq_ok.mp passed
      refine ⟨fun other asked => .inr ?_, ?_⟩
      · rw [← Option.some.inj asked]
        exact ensureDeviceGroupExists_eq_ok.mp ⟨group, found⟩
      · rw [Option.map_some, Option.getD_some, ensureDeviceGroupExists_id found]

/-- The group field of a PATCH passes when the group is known. -/
theorem editDeviceGroup_passes {groups : List DeviceGroup} {row : Device} {given : Option Int}
    (known : ∀ groupId ∈ given, groupId = row.deviceGroupId ∨
      ∃ group ∈ groups, (group.id : Int) = groupId) :
    ∃ state, editDeviceGroup groups row given = .ok state := by
  unfold editDeviceGroup
  cases given with
  | none => exact ⟨_, rfl⟩
  | some groupId =>
    dsimp only
    split
    · exact ⟨_, rfl⟩
    · next different =>
      have exists_ := (known groupId rfl).resolve_left different
      obtain ⟨group, found⟩ := ensureDeviceGroupExists_eq_ok.mpr exists_
      exact ⟨_, by rw [found]; rfl⟩

section EditField

variable {Value : Type} (given : Option Value) (state : Device × List String)

/-- The row that one optional field leaves: an absent or skipped value leaves it as it is. -/
theorem editField_fst (skip : Device → Value → Bool) (note : Device → Value → String)
    (assign : Device → Value → Device) {after : Device} (absent : given = none → after = state.1)
    (skipped : ∀ value ∈ given, skip state.1 value = true → after = state.1)
    (assigned : ∀ value ∈ given, skip state.1 value = false → after = assign state.1 value) :
    (editField given skip note assign state).1 = after := by
  unfold editField
  cases given with
  | none => exact (absent rfl).symm
  | some value =>
    dsimp only
    split
    · next skips => exact (skipped value rfl skips).symm
    · next takes => exact (assigned value rfl (by simpa using takes)).symm

end EditField

/-- The name field of a PATCH. -/
theorem editField_name (given : Option String) (note : Device → String → String)
    (state : Device × List String) :
    (editField given (fun row name => name = row.name) note
      (fun row name => { row with name := name }) state).1 =
      { state.1 with name := given.getD state.1.name } := by
  apply editField_fst
  · rintro rfl
    rfl
  · rintro name rfl same
    rw [Option.getD_some, of_decide_eq_true same]
  · rintro name rfl -
    rfl

/-- The address field of a PATCH. -/
theorem editField_ipOrCidr (given : Option String) (note : Device → String → String)
    (state : Device × List String) :
    (editField given (fun row ip => ip = row.ipOrCidr) note
      (fun row ip => { row with ipOrCidr := ip }) state).1 =
      { state.1 with ipOrCidr := given.getD state.1.ipOrCidr } := by
  apply editField_fst
  · rintro rfl
    rfl
  · rintro ip rfl same
    rw [Option.getD_some, of_decide_eq_true same]
  · rintro ip rfl -
    rfl

/-- The description field of a PATCH. -/
theorem editField_description (given : Option String) (note : Device → String → String)
    (state : Device × List String) :
    (editField given (fun _ _ => false) note
      (fun row text => { row with description := some text }) state).1 =
      { state.1 with description := given.or state.1.description } := by
  apply editField_fst
  · rintro rfl
    rfl
  · rintro text rfl skipped
    cases skipped
  · rintro text rfl -
    rfl

/-- The secret field of a PATCH. -/
theorem editField_secret (given : Option String) (note : Device → String → String)
    (state : Device × List String) :
    (editField given (fun _ secret => secret = "") note
      (fun row secret => { row with currentSecretEnc := some secret }) state).1 =
      { state.1 with currentSecretEnc :=
          (given.filter fun secret => secret ≠ "").or state.1.currentSecretEnc } := by
  apply editField_fst
  · rintro rfl
    rfl
  · rintro secret rfl empty
    rw [of_decide_eq_true empty]
    rfl
  · rintro secret rfl nonempty
    rw [Option.filter_some_pos (by simpa using nonempty)]
    rfl

/-- A PATCH that finds its row and whose group field passes writes the columns of its edit. -/
theorem updateDevice_columns (printable : Char → Bool) {tables : DeviceTables} {deviceId : Nat}
    {payload : DeviceUpdate} {row : Device} {state : Device × List String}
    (found : getDevice tables.devices deviceId = .ok row)
    (passed : editDeviceGroup tables.deviceGroups row payload.deviceGroupId = .ok state) :
    ∃ change, updateDevice printable tables deviceId payload = .ok change ∧
      change.write = .update row.id (writtenColumns (.update payload) row) := by
  have grouped := (editDeviceGroup_eq_ok passed).2
  refine ⟨_, by rw [updateDevice, found, Except.bind, passed, Except.map], ?_⟩
  simp only [editField_secret, editField_description, editField_ipOrCidr, editField_name, grouped,
    writtenColumns, edited, newCurrent]

/-- What a handler writes: it finds the row, knows the group, and writes the columns in which
the edited row differs. -/
theorem prepare_edit_iff {printable : Char → Bool} {tables : DeviceTables} {deviceId : Nat}
    {edit : DeviceEdit} {write : DeviceWrite} :
    (∃ change, prepare printable tables (edit.request deviceId) = .ok change ∧
      change.write = write) ↔
    ∃ row, tables.row deviceId = some row ∧ GroupKnown tables edit row ∧
      write = .update row.id (writtenColumns edit row) := by
  cases edit with
  | update payload =>
    constructor
    · rintro ⟨change, prepared, rfl⟩
      obtain ⟨row, found, passed⟩ := bind_eq_ok.mp prepared
      obtain ⟨state, grouped, -⟩ := map_eq_ok.mp passed
      obtain ⟨other, same, written⟩ := updateDevice_columns printable found grouped
      obtain rfl := Except.ok.inj (prepared.symm.trans same)
      exact ⟨row, getDevice_eq_ok.mp found, (editDeviceGroup_eq_ok grouped).1, written⟩
    · rintro ⟨row, found, known, rfl⟩
      obtain ⟨state, grouped⟩ := editDeviceGroup_passes known
      exact updateDevice_columns printable (getDevice_eq_ok.mpr found) grouped
  | rotateSecret payload =>
    constructor
    · rintro ⟨change, prepared, rfl⟩
      obtain ⟨row, found, rfl⟩ := map_eq_ok.mp prepared
      exact ⟨row, getDevice_eq_ok.mp found, nofun, rfl⟩
    · rintro ⟨row, found, -, rfl⟩
      exact ⟨_, map_eq_ok.mpr ⟨row, getDevice_eq_ok.mpr found, rfl⟩, rfl⟩
  | retirePrevious now =>
    constructor
    · rintro ⟨change, prepared, rfl⟩
      obtain ⟨row, found, rfl⟩ := map_eq_ok.mp prepared
      exact ⟨row, getDevice_eq_ok.mp found, nofun, rfl⟩
    · rintro ⟨row, found, -, rfl⟩
      exact ⟨_, map_eq_ok.mpr ⟨row, getDevice_eq_ok.mpr found, rfl⟩, rfl⟩

/-! ## Committing -/

/-- Tables in which one device was written agree with those before on the other devices. -/
theorem violates_withColumns {tables : DeviceTables} {deviceId : Nat}
    {written columns : DeviceColumns} :
    violates (withColumns tables deviceId written) deviceId columns =
      violates tables deviceId columns := by
  have others : ∀ condition : Device → Bool,
      (withColumns tables deviceId written).devices.any
        (fun other => other.id ≠ deviceId && condition other) =
      tables.devices.any fun other => other.id ≠ deviceId && condition other := by
    intro condition
    rw [withColumns, List.any_map]
    refine List.any_congr rfl fun device => ?_
    by_cases same : device.id = deviceId
    · simp [same, DeviceColumns.apply]
    · simp [same]
  simp only [violates, others]
  rfl

/-- The columns of an edit are committed when they break no constraint. -/
theorem commit_update_iff {tables after : DeviceTables} {deviceId rowId : Nat}
    {columns : DeviceColumns} {row : Device} (found : tables.row deviceId = some row) :
    commit tables (.update deviceId columns) = .ok (after, rowId) ↔
      violates tables deviceId columns = false ∧ after = withColumns tables deviceId columns ∧
        rowId = deviceId := by
  have listed : (tables.devices.any fun device => device.id = deviceId) = true := by
    rw [List.any_eq_true]
    exact ⟨row, List.mem_of_find?_eq_some found, decide_eq_true (row_id found)⟩
  by_cases empty : columns.isEmpty = true
  · have same : withColumns tables deviceId columns = tables := by
      simp [withColumns, apply_of_isEmpty empty]
    have fine : violates tables deviceId columns = false := by
      rw [of_decide_eq_true empty]
      rfl
    rw [commit, if_pos empty, same]
    simp [fine, eq_comm]
  · rw [commit, if_neg empty, listed]
    by_cases broken : violates tables deviceId columns = true
    · simp [broken]
    · simp [broken, withColumns, eq_comm]

/-- The row of the device after columns of it have been written. -/
theorem row_withColumns {tables : DeviceTables} {deviceId : Nat} {row : Device}
    (columns : DeviceColumns) (found : tables.row deviceId = some row) :
    (withColumns tables deviceId columns).row deviceId = some (columns.apply row) := by
  have ids : (fun device : Device => decide (device.id = deviceId)) ∘
      (fun device => if device.id = deviceId then columns.apply device else device) =
      fun device => decide (device.id = deviceId) := by
    funext device
    rw [Function.comp_apply, apply_id]
  have same := row_id found
  unfold DeviceTables.row at found
  rw [DeviceTables.row, withColumns, List.find?_map, ids, found, Option.map_some, if_pos same]

/-- When columns of a device break no constraint. -/
theorem violates_eq_false_iff {tables : DeviceTables} {deviceId : Nat}
    {columns : DeviceColumns} :
    violates tables deviceId columns = false ↔
      (∀ name ∈ columns.name, ∀ other ∈ tables.devices, other.id ≠ deviceId →
        other.name ≠ name) ∧
      (∀ ip ∈ columns.ipOrCidr, ∀ other ∈ tables.devices, other.id ≠ deviceId →
        other.ipOrCidr ≠ ip) ∧
      (∀ groupId ∈ columns.deviceGroupId, ∃ group ∈ tables.deviceGroups, group.id = groupId) := by
  unfold violates
  rw [Bool.or_eq_false_iff, Bool.or_eq_false_iff, and_assoc]
  refine and_congr ?_ (and_congr ?_ ?_)
  · cases columns.name <;> simp
  · cases columns.ipOrCidr <;> simp
  · cases columns.deviceGroupId <;> simp

/-- Writing columns of a device that was found replaces its row. -/
theorem withColumns_devices {tables : DeviceTables} {deviceId : Nat} {row : Device}
    (columns : DeviceColumns) (valid : tables.Valid) (found : tables.row deviceId = some row) :
    (withColumns tables deviceId columns).devices =
      replaceRow Device.id (columns.apply row) tables.devices := by
  refine List.map_congr_left fun device listed => ?_
  have same := row_id found
  have key : (columns.apply row).id = deviceId := same
  by_cases mine : device.id = deviceId
  · have equal : tables.row deviceId = some device := (row_eq_some valid).mpr ⟨listed, mine⟩
    obtain rfl := Option.some.inj (equal.symm.trans found)
    rw [if_pos mine, if_pos (mine.trans key.symm)]
  · rw [if_neg mine, if_neg fun equal => mine (equal.trans key)]

/-- A unique column of another row differs from the value that the device gets. -/
theorem ne_getD_of_unique {Value : Type} {column : Device → Value} {devices : List Device}
    {row other : Device} {written : Option Value} (unique : (devices.map column).Nodup)
    (listed : row ∈ devices) (present : other ∈ devices) (different : other.id ≠ row.id)
    (free : ∀ value ∈ written, ∀ device ∈ devices, device.id ≠ row.id → column device ≠ value) :
    column other ≠ written.getD (column row) := by
  cases written with
  | none =>
    intro same
    exact different (congrArg Device.id (List.inj_on_of_nodup_map unique present listed same))
  | some value => exact free value rfl other present different

/-- A row of the device that breaks no constraint with the others may replace the old one. -/
theorem withColumns_constraints {tables : DeviceTables} {deviceId : Nat}
    {columns : DeviceColumns} {row : Device} (constraints : tables.Constraints)
    (found : tables.row deviceId = some row)
    (fine : violates tables deviceId columns = false) :
    (withColumns tables deviceId columns).Constraints := by
  obtain ⟨names, ips, groups⟩ := violates_eq_false_iff.mp fine
  obtain ⟨listed, rfl⟩ := (row_eq_some constraints.toValid).mp found
  have committed : commit tables (.update row.id columns) =
      .ok (withColumns tables row.id columns, row.id) :=
    (commit_update_iff found).mpr ⟨fine, rfl, rfl⟩
  have replaced := withColumns_devices columns constraints.toValid found
  refine { commit_valid constraints.toValid committed with
    deviceName := ?_, deviceIpOrCidr := ?_, deviceGroup := ?_ }
  · rw [replaced]
    refine List.pairwise_map.mpr (pairwise_replaceRow constraints.deviceId
      (List.pairwise_map.mp constraints.deviceName) (fun _ _ => Ne.symm) ?_)
    intro other present different
    exact ne_getD_of_unique constraints.deviceName listed present different names
  · rw [replaced]
    refine List.pairwise_map.mpr (pairwise_replaceRow constraints.deviceId
      (List.pairwise_map.mp constraints.deviceIpOrCidr) (fun _ _ => Ne.symm) ?_)
    intro other present different
    exact ne_getD_of_unique constraints.deviceIpOrCidr listed present different ips
  · rw [replaced]
    intro device present
    rcases mem_replaceRow present with rfl | ⟨before, -⟩
    · change ∃ group ∈ tables.deviceGroups, group.id = columns.deviceGroupId.getD row.deviceGroupId
      cases written : columns.deviceGroupId with
      | none => exact constraints.deviceGroup row listed
      | some groupId => exact groups groupId written
    · exact constraints.deviceGroup device before

/-! ## Edits that the tables admit -/

/-- The tables admit an edit of a device: it exists, and so does the group asked for, while no
other device has the name or the address asked for. -/
structure Fits (tables : DeviceTables) (deviceId : Nat) (edit : DeviceEdit) : Prop where
  /-- The device exists. -/
  present : ∃ row, tables.row deviceId = some row
  /-- The group exists. -/
  group : ∀ groupId ∈ newGroup edit, ∃ group ∈ tables.deviceGroups, (group.id : Int) = groupId
  /-- The name is free. -/
  name : ∀ name ∈ newName edit, ∀ other ∈ tables.devices, other.id ≠ deviceId →
    other.name ≠ name
  /-- The address is free. -/
  ipOrCidr : ∀ ip ∈ newIpOrCidr edit, ∀ other ∈ tables.devices, other.id ≠ deviceId →
    other.ipOrCidr ≠ ip

/-- The name of the edited row. -/
theorem edited_name (edit : DeviceEdit) (row : Device) :
    (edited edit row).name = (newName edit).getD row.name := by
  cases edit <;> rfl

/-- The address of the edited row. -/
theorem edited_ipOrCidr (edit : DeviceEdit) (row : Device) :
    (edited edit row).ipOrCidr = (newIpOrCidr edit).getD row.ipOrCidr := by
  cases edit <;> rfl

/-- The group of the edited row. -/
theorem edited_deviceGroupId (edit : DeviceEdit) (row : Device) :
    (edited edit row).deviceGroupId =
      ((newGroup edit).map Int.toNat).getD row.deviceGroupId := by
  cases edit <;> rfl

/-- An edit that was prepared and breaks no constraint fits. -/
theorem fits_of_fine {tables : DeviceTables} {deviceId : Nat} {edit : DeviceEdit} {row : Device}
    (constraints : tables.Constraints) (found : tables.row deviceId = some row)
    (known : GroupKnown tables edit row)
    (fine : violates tables deviceId (writtenColumns edit row) = false) :
    Fits tables deviceId edit := by
  obtain ⟨names, ips, -⟩ := violates_eq_false_iff.mp fine
  obtain ⟨listed, rfl⟩ := (row_eq_some constraints.toValid).mp found
  refine ⟨⟨row, found⟩, ?_, ?_, ?_⟩
  · intro groupId asked
    rcases known groupId asked with rfl | exists_
    · obtain ⟨group, present, same⟩ := constraints.deviceGroup row listed
      exact ⟨group, present, by rw [same]⟩
    · exact exists_
  · intro name asked other present different
    have after := ne_getD_of_unique constraints.deviceName listed present different names
    rwa [show (writtenColumns edit row).name.getD row.name = (edited edit row).name from
      changedTo_getD .., edited_name, asked, Option.getD_some] at after
  · intro ip asked other present different
    have after := ne_getD_of_unique constraints.deviceIpOrCidr listed present different ips
    rwa [show (writtenColumns edit row).ipOrCidr.getD row.ipOrCidr = (edited edit row).ipOrCidr
      from changedTo_getD .., edited_ipOrCidr, asked, Option.getD_some] at after

/-- An edit that fits knows its group. -/
theorem Fits.known {tables : DeviceTables} {deviceId : Nat} {edit : DeviceEdit}
    (fits : Fits tables deviceId edit) (row : Device) : GroupKnown tables edit row :=
  fun groupId asked => .inr (fits.group groupId asked)

/-- The value written in a column is the one asked for. -/
theorem changedTo_eq_given {Value : Type} [DecidableEq Value] {loaded value : Value}
    {given : Option Value} (written : changedTo loaded (given.getD loaded) = some value) :
    given = some value := by
  obtain ⟨different, rfl⟩ := changedTo_eq_some.mp written
  cases given with
  | none => exact absurd rfl different
  | some value => rfl

/-- An edit that fits breaks no constraint. -/
theorem Fits.fine {tables : DeviceTables} {deviceId : Nat} {edit : DeviceEdit}
    (fits : Fits tables deviceId edit) (row : Device) :
    violates tables deviceId (writtenColumns edit row) = false := by
  refine violates_eq_false_iff.mpr ⟨?_, ?_, ?_⟩
  · intro name written
    rw [writtenColumns, DeviceColumns.between, edited_name] at written
    exact fits.name name (changedTo_eq_given written)
  · intro ip written
    rw [writtenColumns, DeviceColumns.between, edited_ipOrCidr] at written
    exact fits.ipOrCidr ip (changedTo_eq_given written)
  · intro groupId written
    rw [writtenColumns, DeviceColumns.between, edited_deviceGroupId] at written
    obtain ⟨asked, given, same⟩ := Option.map_eq_some_iff.mp (changedTo_eq_given written)
    obtain ⟨group, present, equal⟩ := fits.group asked given
    exact ⟨group, present, by omega⟩

/-- Whether an edit fits does not depend on the row of its own device. -/
theorem Fits.withColumns {tables : DeviceTables} {deviceId : Nat} {edit : DeviceEdit}
    (fits : Fits tables deviceId edit) (columns : DeviceColumns) :
    Fits (withColumns tables deviceId columns) deviceId edit := by
  have others : ∀ other ∈ (Verif.withColumns tables deviceId columns).devices,
      other.id ≠ deviceId → other ∈ tables.devices := by
    intro other listed different
    obtain ⟨device, present, rfl⟩ := List.mem_map.mp listed
    rw [apply_id] at different
    rwa [if_neg different]
  obtain ⟨row, found⟩ := fits.present
  refine ⟨⟨_, row_withColumns _ found⟩, fits.group, ?_, ?_⟩
  · intro name asked other listed different
    exact fits.name name asked other (others other listed different) different
  · intro ip asked other listed different
    exact fits.ipOrCidr ip asked other (others other listed different) different

/-! ## Transactions -/

/-- A handler loads the row of its device and works out the columns of its edit. -/
theorem load_eq_some {printable : Char → Bool} {tables : DeviceTables} {deviceId : Nat}
    {edit : DeviceEdit} {change : PreparedChange}
    (loaded : (deviceEdits printable deviceId).load tables edit = some change) :
    ∃ row, tables.row deviceId = some row ∧ GroupKnown tables edit row ∧
      change.write = .update deviceId (writtenColumns edit row) := by
  have prepared : prepare printable tables (edit.request deviceId) = .ok change :=
    toOption_eq_some.mp loaded
  obtain ⟨row, found, known, written⟩ := prepare_edit_iff.mp ⟨change, prepared, rfl⟩
  exact ⟨row, found, known, by rw [written, row_id found]⟩

/-- A commit of columns of a device that exists. -/
theorem commit_eq_some {printable : Char → Bool} {tables after : DeviceTables} {deviceId : Nat}
    {columns : DeviceColumns} {change : PreparedChange} {row : Device}
    (found : tables.row deviceId = some row) (written : change.write = .update deviceId columns) :
    (deviceEdits printable deviceId).commit tables change = some after ↔
      violates tables deviceId columns = false ∧ after = withColumns tables deviceId columns := by
  change (commit tables change.write).toOption.map Prod.fst = some after ↔ _
  rw [written, Option.map_eq_some_iff]
  constructor
  · rintro ⟨⟨reached, rowId⟩, committed, rfl⟩
    obtain ⟨fine, same, -⟩ :=
      (commit_update_iff found).mp (toOption_eq_some.mp committed)
    exact ⟨fine, same⟩
  · rintro ⟨fine, rfl⟩
    exact ⟨_, toOption_eq_some.mpr ((commit_update_iff found).mpr ⟨fine, rfl, rfl⟩), rfl⟩

section Alone

variable {printable : Char → Bool} {tables after : DeviceTables} {deviceId : Nat}
  {edit : DeviceEdit} {row : Device}

/-- An edit with nothing in between succeeds when it fits, and writes its columns. -/
theorem alone_eq_some (constraints : tables.Constraints)
    (found : tables.row deviceId = some row) :
    (deviceEdits printable deviceId).alone tables edit = some after ↔
      Fits tables deviceId edit ∧
        after = withColumns tables deviceId (writtenColumns edit row) := by
  rw [ReadModifyWrite.alone, Option.bind_eq_some_iff]
  constructor
  · rintro ⟨change, loaded, committed⟩
    obtain ⟨other, same, known, written⟩ := load_eq_some loaded
    obtain rfl := Option.some.inj (same.symm.trans found)
    obtain ⟨fine, rfl⟩ := (commit_eq_some found written).mp committed
    exact ⟨fits_of_fine constraints found known fine, rfl⟩
  · rintro ⟨fits, rfl⟩
    obtain ⟨change, prepared, written⟩ :=
      (@prepare_edit_iff printable tables deviceId edit _).mpr ⟨row, found, fits.known row, rfl⟩
    rw [row_id found] at written
    exact ⟨change, toOption_eq_some.mpr prepared,
      (commit_eq_some found written).mpr ⟨fits.fine row, rfl⟩⟩

/-- After an edit with nothing in between, the device has the edited row. -/
theorem alone_row (constraints : tables.Constraints) (found : tables.row deviceId = some row)
    (succeeded : (deviceEdits printable deviceId).alone tables edit = some after) :
    after.row deviceId = some (edited edit row) := by
  obtain ⟨-, rfl⟩ := (alone_eq_some constraints found).mp succeeded
  rw [row_withColumns _ found, writtenColumns_apply]

/-- An edit with nothing in between keeps the constraints. -/
theorem alone_constraints (constraints : tables.Constraints)
    (found : tables.row deviceId = some row)
    (succeeded : (deviceEdits printable deviceId).alone tables edit = some after) :
    after.Constraints := by
  obtain ⟨fits, rfl⟩ := (alone_eq_some constraints found).mp succeeded
  exact withColumns_constraints constraints found (fits.fine row)

end Alone

/-- One device, with one secret. -/
def oneSecret : DeviceTables where
  deviceGroups := [⟨1, "core", none⟩]
  devices := [⟨1, "sw", "10.0.0.1", 1, some "s0", none, none, none⟩]
  nextDeviceId := 2

/-- The device meets the constraints. -/
theorem oneSecret_constraints : oneSecret.Constraints where
  deviceId := by decide
  deviceSequence := by decide
  deviceName := by decide
  deviceIpOrCidr := by decide
  deviceGroup := by decide

end TacacsWeb.Verif
