import TacacsWeb.Library.IpAddress
import TacacsWeb.Library.Text
import TacacsWeb.Model.Audit
import TacacsWeb.Model.Schema

/-!
# Device requests

`app.api.v1.devices`: a request loads the row it is about, works out new column values and
commits the columns that differ. The two halves are separate functions, so that the steps
of other requests can come between them: `prepare` is a handler up to its flush, and
`commit` is the transaction on the table as it is by then.
-/

namespace TacacsWeb.Model

open TacacsWeb.Library.IpAddress TacacsWeb.Library.Text

/-- An error response. -/
structure HttpError where
  /-- The status code. -/
  status : Nat
  /-- The `detail` of the body, when the handler gives one. -/
  detail : Option String
deriving DecidableEq

/-- `DeviceCreate`. -/
structure DeviceCreate where
  /-- The name. -/
  name : String
  /-- The host address or CIDR block. -/
  ipOrCidr : String
  /-- The group. -/
  deviceGroupId : Int
  /-- The shared secret, when one is given. -/
  currentSecret : Option String
  /-- Free text. -/
  description : Option String
  /-- `min_length=1, max_length=128`. -/
  nameLength : 1 ≤ name.length ∧ name.length ≤ 128
  /-- `min_length=1, max_length=64`. -/
  ipOrCidrLength : 1 ≤ ipOrCidr.length ∧ ipOrCidr.length ≤ 64
  /-- `_validate_ip_or_cidr`. -/
  ipOrCidrValid : (ipNetwork ipOrCidr.toList).isSome = true
  /-- `max_length=512`. -/
  currentSecretLength : ∀ value ∈ currentSecret, value.length ≤ 512
  /-- `max_length=2048`. -/
  descriptionLength : ∀ value ∈ description, value.length ≤ 2048
deriving DecidableEq

/-- `DeviceUpdate`. -/
structure DeviceUpdate where
  /-- The new name. -/
  name : Option String
  /-- The new host address or CIDR block. -/
  ipOrCidr : Option String
  /-- The new group. -/
  deviceGroupId : Option Int
  /-- The new free text. -/
  description : Option String
  /-- The new shared secret, set outright. -/
  currentSecret : Option String
  /-- `min_length=1, max_length=128`. -/
  nameLength : ∀ value ∈ name, 1 ≤ value.length ∧ value.length ≤ 128
  /-- `min_length=1, max_length=64`. -/
  ipOrCidrLength : ∀ value ∈ ipOrCidr, 1 ≤ value.length ∧ value.length ≤ 64
  /-- `_validate_ip_or_cidr`. -/
  ipOrCidrValid : ∀ value ∈ ipOrCidr, (ipNetwork value.toList).isSome = true
  /-- `max_length=2048`. -/
  descriptionLength : ∀ value ∈ description, value.length ≤ 2048
  /-- `max_length=512`. -/
  currentSecretLength : ∀ value ∈ currentSecret, value.length ≤ 512
deriving DecidableEq

/-- `DeviceRotateSecret`. -/
structure DeviceRotateSecret where
  /-- The new shared secret. -/
  newSecret : String
  /-- `min_length=1, max_length=512`. -/
  newSecretLength : 1 ≤ newSecret.length ∧ newSecret.length ≤ 512
deriving DecidableEq

/-- `DeviceRead`, without the two timestamps of the row. -/
structure DeviceRead where
  /-- Primary key. -/
  id : Nat
  /-- The name. -/
  name : String
  /-- The host address or CIDR block. -/
  ipOrCidr : String
  /-- The group. -/
  deviceGroupId : Nat
  /-- Whether there is a secret. -/
  hasCurrentSecret : Bool
  /-- Whether there is a secret from before a rotation. -/
  hasPreviousSecret : Bool
  /-- When the previous secret was retired. -/
  previousRetiredAt : Option Nat
  /-- Free text. -/
  description : Option String
deriving DecidableEq

/-- `DeviceRead.from_row`. -/
def DeviceRead.fromRow (row : Device) : DeviceRead where
  id := row.id
  name := row.name
  ipOrCidr := row.ipOrCidr
  deviceGroupId := row.deviceGroupId
  hasCurrentSecret := row.currentSecretEnc.isSome
  hasPreviousSecret := row.previousSecretEnc.isSome
  previousRetiredAt := row.previousRetiredAt
  description := row.description

/-- The requests that change a device. -/
inductive DeviceRequest where
  /-- `POST /devices`. -/
  | create (payload : DeviceCreate)
  /-- `PATCH /devices/{id}`. -/
  | update (deviceId : Nat) (payload : DeviceUpdate)
  /-- `DELETE /devices/{id}`. -/
  | delete (deviceId : Nat)
  /-- `POST /devices/{id}/rotate-secret`. -/
  | rotateSecret (deviceId : Nat) (payload : DeviceRotateSecret)
  /-- `POST /devices/{id}/retire-previous`, at a time. -/
  | retirePrevious (deviceId : Nat) (now : Nat)
deriving DecidableEq

/-- The tables that a device request reads and writes. -/
structure DeviceTables where
  /-- `device_group`. -/
  deviceGroups : List DeviceGroup
  /-- `device`. -/
  devices : List Device
  /-- Next value of the `device` sequence. -/
  nextDeviceId : Nat
deriving DecidableEq

/-! ## Loading and editing -/

/-- The columns of an `UPDATE`: those whose value differs from the one loaded. -/
structure DeviceColumns where
  /-- `name`. -/
  name : Option String
  /-- `ip_or_cidr`. -/
  ipOrCidr : Option String
  /-- `device_group_id`. -/
  deviceGroupId : Option Nat
  /-- `current_secret_enc`. -/
  currentSecretEnc : Option (Option String)
  /-- `previous_secret_enc`. -/
  previousSecretEnc : Option (Option String)
  /-- `previous_retired_at`. -/
  previousRetiredAt : Option (Option Nat)
  /-- `description`. -/
  description : Option (Option String)
deriving DecidableEq

/-- A column value to write, none when it is as loaded. -/
def changedTo {Value : Type} [DecidableEq Value] (loaded value : Value) : Option Value :=
  if value = loaded then none else some value

/-- The columns in which an edited row differs from the loaded one. -/
def DeviceColumns.between (loaded edited : Device) : DeviceColumns where
  name := changedTo loaded.name edited.name
  ipOrCidr := changedTo loaded.ipOrCidr edited.ipOrCidr
  deviceGroupId := changedTo loaded.deviceGroupId edited.deviceGroupId
  currentSecretEnc := changedTo loaded.currentSecretEnc edited.currentSecretEnc
  previousSecretEnc := changedTo loaded.previousSecretEnc edited.previousSecretEnc
  previousRetiredAt := changedTo loaded.previousRetiredAt edited.previousRetiredAt
  description := changedTo loaded.description edited.description

/-- The row after the columns have been written. -/
def DeviceColumns.apply (columns : DeviceColumns) (row : Device) : Device where
  id := row.id
  name := columns.name.getD row.name
  ipOrCidr := columns.ipOrCidr.getD row.ipOrCidr
  deviceGroupId := columns.deviceGroupId.getD row.deviceGroupId
  currentSecretEnc := columns.currentSecretEnc.getD row.currentSecretEnc
  previousSecretEnc := columns.previousSecretEnc.getD row.previousSecretEnc
  previousRetiredAt := columns.previousRetiredAt.getD row.previousRetiredAt
  description := columns.description.getD row.description

/-- What a flush does to the `device` table. -/
inductive DeviceWrite where
  /-- `INSERT`; the row gets its id from the sequence. -/
  | insert (row : Device)
  /-- `UPDATE` of the changed columns of a row. -/
  | update (deviceId : Nat) (columns : DeviceColumns)
  /-- `DELETE` of a row. -/
  | delete (deviceId : Nat)
deriving DecidableEq

/-- A handler that has worked out its change. -/
structure PreparedChange where
  /-- The change to the table. -/
  write : DeviceWrite
  /-- The action of the audit row. -/
  action : AuditAction
  /-- The summary of the audit row. -/
  summary : String
deriving DecidableEq

/-- `_ensure_device_group_exists`. -/
def ensureDeviceGroupExists (groups : List DeviceGroup) (deviceGroupId : Int) :
    Except HttpError DeviceGroup :=
  match groups.find? fun group => (group.id : Int) = deviceGroupId with
  | none => .error ⟨400, some "unknown_device_group_id"⟩
  | some group => .ok group

/-- `session.get(Device, device_id)`, with the 404 of every handler. -/
def getDevice (devices : List Device) (deviceId : Nat) : Except HttpError Device :=
  match devices.find? fun device => device.id = deviceId with
  | none => .error ⟨404, none⟩
  | some row => .ok row

/-- `create_device` up to its flush. -/
def createDevice (tables : DeviceTables) (payload : DeviceCreate) :
    Except HttpError PreparedChange :=
  (ensureDeviceGroupExists tables.deviceGroups payload.deviceGroupId).map fun group =>
    { write := .insert
        { id := 0
          name := payload.name
          ipOrCidr := payload.ipOrCidr
          deviceGroupId := group.id
          currentSecretEnc := payload.currentSecret
          previousSecretEnc := none
          previousRetiredAt := none
          description := payload.description }
      action := .deviceCreated
      summary := payload.name ++ " " ++ payload.ipOrCidr }

/-- One optional field of `update_device`: assign it unless it is absent or to be skipped, and
note the change. -/
def editField {Value : Type} (given : Option Value) (skip : Device → Value → Bool)
    (note : Device → Value → String) (assign : Device → Value → Device)
    (state : Device × List String) : Device × List String :=
  match given with
  | none => state
  | some value =>
    if skip state.1 value then state
    else (assign state.1 value, state.2 ++ [note state.1 value])

/-- The group field of `update_device`. -/
def editDeviceGroup (groups : List DeviceGroup) (row : Device) (given : Option Int) :
    Except HttpError (Device × List String) :=
  match given with
  | none => .ok (row, [])
  | some groupId =>
    if groupId = row.deviceGroupId then .ok (row, [])
    else (ensureDeviceGroupExists groups groupId).map fun group =>
      ({ row with deviceGroupId := group.id },
        ["dg " ++ toString row.deviceGroupId ++ "->" ++ toString groupId])

/-- `update_device` up to its flush. -/
def updateDevice (printable : Char → Bool) (tables : DeviceTables) (deviceId : Nat)
    (payload : DeviceUpdate) : Except HttpError PreparedChange :=
  (getDevice tables.devices deviceId).bind fun row =>
    (editDeviceGroup tables.deviceGroups row payload.deviceGroupId).map fun state =>
      let state := editField payload.name (fun row name => name = row.name)
        (fun row name => "name " ++ pyRepr printable row.name ++ "->" ++ pyRepr printable name)
        (fun row name => { row with name := name }) state
      let state := editField payload.ipOrCidr (fun row ip => ip = row.ipOrCidr)
        (fun row ip => "ip " ++ row.ipOrCidr ++ "->" ++ ip)
        (fun row ip => { row with ipOrCidr := ip }) state
      let state := editField payload.description (fun _ _ => false) (fun _ _ => "description")
        (fun row text => { row with description := some text }) state
      let state := editField payload.currentSecret (fun _ secret => secret = "")
        (fun _ _ => "secret") (fun row secret => { row with currentSecretEnc := some secret }) state
      { write := .update row.id (.between row state.1)
        action := .deviceUpdated
        summary := state.1.name ++ ": " ++
          (if state.2 = [] then "no-op" else ", ".intercalate state.2) }

/-- `delete_device` up to its flush. -/
def deleteDevice (tables : DeviceTables) (deviceId : Nat) : Except HttpError PreparedChange :=
  (getDevice tables.devices deviceId).map fun row =>
    { write := .delete row.id
      action := .deviceDeleted
      summary := row.name ++ " " ++ row.ipOrCidr }

/-- `rotate_secret` up to its commit. -/
def rotateSecret (tables : DeviceTables) (deviceId : Nat) (payload : DeviceRotateSecret) :
    Except HttpError PreparedChange :=
  (getDevice tables.devices deviceId).map fun row =>
    { write := .update row.id (.between row
        { row with
          previousSecretEnc := row.currentSecretEnc
          previousRetiredAt := none
          currentSecretEnc := some payload.newSecret })
      action := .deviceSecretRotated
      summary := row.name }

/-- `retire_previous_secret` up to its commit. -/
def retirePreviousSecret (tables : DeviceTables) (deviceId now : Nat) :
    Except HttpError PreparedChange :=
  (getDevice tables.devices deviceId).map fun row =>
    { write := .update row.id (.between row
        { row with previousSecretEnc := none, previousRetiredAt := some now })
      action := .devicePreviousRetired
      summary := row.name }

/-- The handlers up to their flush. -/
def prepare (printable : Char → Bool) (tables : DeviceTables) :
    DeviceRequest → Except HttpError PreparedChange
  | .create payload => createDevice tables payload
  | .update deviceId payload => updateDevice printable tables deviceId payload
  | .delete deviceId => deleteDevice tables deviceId
  | .rotateSecret deviceId payload => rotateSecret tables deviceId payload
  | .retirePrevious deviceId now => retirePreviousSecret tables deviceId now

/-! ## Committing -/

/-- The columns break a unique column or the reference to the group. -/
def violates (tables : DeviceTables) (deviceId : Nat) (columns : DeviceColumns) : Bool :=
  (columns.name.any fun name =>
    tables.devices.any fun other => other.id ≠ deviceId && other.name = name) ||
  (columns.ipOrCidr.any fun ip =>
    tables.devices.any fun other => other.id ≠ deviceId && other.ipOrCidr = ip) ||
  (columns.deviceGroupId.any fun groupId =>
    !tables.deviceGroups.any fun group => group.id = groupId)

/-- The columns of an inserted row. -/
def DeviceColumns.ofRow (row : Device) : DeviceColumns where
  name := some row.name
  ipOrCidr := some row.ipOrCidr
  deviceGroupId := some row.deviceGroupId
  currentSecretEnc := some row.currentSecretEnc
  previousSecretEnc := some row.previousSecretEnc
  previousRetiredAt := some row.previousRetiredAt
  description := some row.description

/-- No column is written. -/
def DeviceColumns.isEmpty (columns : DeviceColumns) : Bool :=
  columns = ⟨none, none, none, none, none, none, none⟩

/-- The transaction of a prepared change: the tables after it and the id of its row. An
`UPDATE` whose row is gone raises, a `DELETE` whose row is gone does not. -/
def commit (tables : DeviceTables) : DeviceWrite → Except HttpError (DeviceTables × Nat)
  | .insert row =>
    if violates tables tables.nextDeviceId (.ofRow row) then
      .error ⟨409, some "name_or_ip_already_exists"⟩
    else
      .ok ({ tables with
        devices := tables.devices ++ [{ row with id := tables.nextDeviceId }]
        nextDeviceId := tables.nextDeviceId + 1 }, tables.nextDeviceId)
  | .update deviceId columns =>
    if columns.isEmpty then .ok (tables, deviceId)
    else if !tables.devices.any fun device => device.id = deviceId then .error ⟨500, none⟩
    else if violates tables deviceId columns then .error ⟨409, some "name_or_ip_already_exists"⟩
    else
      .ok ({ tables with
        devices := tables.devices.map fun device =>
          if device.id = deviceId then columns.apply device else device }, deviceId)
  | .delete deviceId =>
    .ok ({ tables with devices := tables.devices.filter fun device => device.id ≠ deviceId },
      deviceId)

/-- The audit row that a committed change leaves. -/
def PreparedChange.audit (change : PreparedChange) (ctx : SessionContext) (rowId : Nat) :
    AuditLog :=
  appendCrud ctx change.action "device" rowId (some change.summary)

/-! ## What a commit keeps -/

/-- Ids are distinct and came from the sequence. -/
structure DeviceTables.Valid (tables : DeviceTables) : Prop where
  /-- Primary key of `device`. -/
  deviceId : (tables.devices.map Device.id).Nodup
  /-- Every id came from the sequence. -/
  deviceSequence : ∀ device ∈ tables.devices, device.id < tables.nextDeviceId

/-- Writing columns leaves the id of every row as it is. -/
theorem apply_id (columns : DeviceColumns) (deviceId : Nat) (device : Device) :
    (if device.id = deviceId then columns.apply device else device).id = device.id := by
  split <;> rfl

/-- A commit keeps the tables valid. -/
theorem commit_valid {tables after : DeviceTables} {write : DeviceWrite} {rowId : Nat}
    (valid : tables.Valid) (committed : commit tables write = .ok (after, rowId)) :
    after.Valid := by
  cases write with
  | insert row =>
    simp only [commit] at committed
    split at committed
    · cases committed
    · cases committed
      refine ⟨?_, ?_⟩
      · rw [List.map_append, List.nodup_append]
        refine ⟨valid.deviceId, List.nodup_singleton _, fun id listed other last => ?_⟩
        obtain ⟨device, present, rfl⟩ := List.mem_map.mp listed
        obtain rfl := List.mem_singleton.mp last
        exact (valid.deviceSequence device present).ne
      · intro device listed
        rcases List.mem_append.mp listed with present | last
        · exact Nat.lt_succ_of_lt (valid.deviceSequence device present)
        · obtain rfl := List.mem_singleton.mp last
          exact Nat.lt_succ_self _
  | update deviceId columns =>
    simp only [commit] at committed
    split at committed
    · cases committed
      exact valid
    · split at committed
      · cases committed
      · split at committed
        · cases committed
        · cases committed
          refine ⟨?_, ?_⟩
          · have ids : (tables.devices.map fun device =>
                if device.id = rowId then columns.apply device else device).map Device.id =
                tables.devices.map Device.id := by
              rw [List.map_map]
              exact List.map_congr_left fun device _ => apply_id columns rowId device
            simpa only [ids] using valid.deviceId
          · intro device listed
            obtain ⟨before, present, rfl⟩ := List.mem_map.mp listed
            rw [apply_id]
            exact valid.deviceSequence before present
  | delete deviceId =>
    cases committed
    refine ⟨valid.deviceId.sublist (List.filter_sublist.map _), fun device listed => ?_⟩
    exact valid.deviceSequence device (List.mem_filter.mp listed).1

/-- The row that a handler reloads after its commit, none for a deletion. -/
def DeviceWrite.refreshed (write : DeviceWrite) (rowId : Nat) : Option Nat :=
  match write with
  | .delete _ => none
  | _ => some rowId

/-- A commit that changes the table leaves the row that its handler reloads. -/
theorem commit_refreshed {tables after : DeviceTables} {write : DeviceWrite} {rowId : Nat}
    (committed : commit tables write = .ok (after, rowId))
    (changed : after.devices ≠ tables.devices) :
    ∀ id ∈ write.refreshed rowId, ∃ device ∈ after.devices, device.id = id := by
  intro id reloaded
  cases write with
  | insert row =>
    cases reloaded
    simp only [commit] at committed
    split at committed
    · cases committed
    · cases committed
      exact ⟨_, List.mem_append_right _ (List.mem_singleton_self _), rfl⟩
  | update deviceId columns =>
    cases reloaded
    simp only [commit] at committed
    split at committed
    · cases committed
      exact absurd rfl changed
    · split at committed
      · cases committed
      · rename_i present
        split at committed
        · cases committed
        · cases committed
          obtain ⟨device, listed, same⟩ : ∃ device ∈ tables.devices, device.id = rowId := by
            simpa using present
          exact ⟨_, List.mem_map_of_mem listed, (apply_id columns rowId device).trans same⟩
  | delete deviceId => cases reloaded

end TacacsWeb.Model
