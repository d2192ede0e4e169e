import TacacsWeb.Library.ReadModifyWrite
import TacacsWeb.Model.Devices

/-!
# Edits of one device

The requests that edit a device in place, as transactions that load its row, compute the new
column values and commit the columns that differ. No version is compared at the commit.
-/

namespace TacacsWeb.Model

open TacacsWeb.Library

/-- The requests that edit a device in place. -/
inductive DeviceEdit where
  /-- `PATCH /devices/{id}`. -/
  | update (payload : DeviceUpdate)
  /-- `POST /devices/{id}/rotate-secret`. -/
  | rotateSecret (payload : DeviceRotateSecret)
  /-- `POST /devices/{id}/retire-previous`, at a time. -/
  | retirePrevious (now : Nat)
deriving DecidableEq

/-- The request on a device. -/
def DeviceEdit.request (deviceId : Nat) : DeviceEdit → DeviceRequest
  | .update payload => .update deviceId payload
  | .rotateSecret payload => .rotateSecret deviceId payload
  | .retirePrevious now => .retirePrevious deviceId now

/-- The edits of one device. A handler that raises leaves the tables as they are and is no
step of the system. -/
def deviceEdits (printable : Char → Bool) (deviceId : Nat) :
    ReadModifyWrite DeviceTables DeviceEdit PreparedChange where
  load tables edit := (prepare printable tables (edit.request deviceId)).toOption
  commit tables change := (commit tables change.write).toOption.map Prod.fst

/-- The requests of a secret rotation. -/
inductive Rotation where
  /-- `POST /devices/{id}/rotate-secret`. -/
  | rotateSecret (payload : DeviceRotateSecret)
  /-- `POST /devices/{id}/retire-previous`, at a time. -/
  | retirePrevious (now : Nat)
deriving DecidableEq

/-- The request as an edit. -/
def Rotation.edit : Rotation → DeviceEdit
  | .rotateSecret payload => .rotateSecret payload
  | .retirePrevious now => .retirePrevious now

/-- Rotation requests on one device, each after the one before. -/
def rotations (printable : Char → Bool) (deviceId : Nat) : Step DeviceTables Rotation :=
  fun tables rotation => (deviceEdits printable deviceId).alone tables rotation.edit

/-- `session.get` on a table: the row with an id. -/
def DeviceTables.row (tables : DeviceTables) (deviceId : Nat) : Option Device :=
  tables.devices.find? fun device => device.id = deviceId

/-- The current and the previous secret of a device. -/
def DeviceTables.secrets (tables : DeviceTables) (deviceId : Nat) :
    Option (Option String × Option String) :=
  (tables.row deviceId).map fun row => (row.currentSecretEnc, row.previousSecretEnc)

/-! ## Requests one after the other -/

/-- A request with nothing in between, undefined when it is refused. -/
def deviceRequests (printable : Char → Bool) : Step DeviceTables DeviceRequest :=
  fun tables request =>
    ((prepare printable tables request).toOption.bind fun change =>
      (commit tables change.write).toOption).map Prod.fst

/-- A request that may write an `ip_or_cidr`. -/
def writesAddress : DeviceRequest → Prop
  | .create _ => True
  | .update _ _ => True
  | _ => False

/-- The `device` tables that creations and edits leave, among groups that exist. -/
def ReachableDevices (printable : Char → Bool) (groups : List DeviceGroup)
    (devices : List Device) : Prop :=
  ∃ requests tables, (∀ request ∈ requests, writesAddress request) ∧
    (deviceRequests printable).run ⟨groups, [], 1⟩ requests = some tables ∧
    tables.devices = devices

/-! ## Constraints of the schema -/

/-- The unique columns and the reference of `device`. -/
structure DeviceTables.Constraints (tables : DeviceTables) : Prop extends tables.Valid where
  /-- `name` is unique. -/
  deviceName : (tables.devices.map Device.name).Nodup
  /-- `ip_or_cidr` is unique. -/
  deviceIpOrCidr : (tables.devices.map Device.ipOrCidr).Nodup
  /-- `device_group_id` refers to a group. -/
  deviceGroup : ∀ device ∈ tables.devices, ∃ group ∈ tables.deviceGroups,
    group.id = device.deviceGroupId

end TacacsWeb.Model
