import TacacsWeb.Library.Run
import TacacsWeb.Model.Devices
import TacacsWeb.Model.NasConfig

/-!
# Requests that rewrite `hosts.cfg`

Any number of device requests and admin regenerations at once. Each takes its steps in
order (work out the change, commit it, read the table, write the file), and the steps of
the others may come between any two of them. Versions number the states of the `device`
table, and the file remembers the version that its content was read from; the code keeps
neither number. The audit log is left out, since nothing here reads it.
-/

namespace TacacsWeb.Model

open TacacsWeb.Library

/-- The requests that rewrite the file. -/
inductive RegenRequest where
  /-- A change of a device. -/
  | change (request : DeviceRequest)
  /-- `POST /admin/regenerate-nas-config`, by a session with or without the admin role. -/
  | regenerate (isAdmin : Bool)
deriving DecidableEq

/-- How far a request has come. -/
inductive RegenPhase where
  /-- Nothing has been done. -/
  | arrived (request : RegenRequest)
  /-- The change has been worked out from the row that was loaded. -/
  | prepared (change : PreparedChange)
  /-- The file is to be regenerated, after the row has been reloaded. -/
  | regenerating (refresh : Option Nat)
  /-- The table has been read, in this version, and rendered. -/
  | rendered (content : String) (version : Nat)
  /-- The response has been sent. -/
  | finished
deriving DecidableEq

/-- The tables, the file and the requests under way. -/
structure HostsSystem where
  /-- The tables. -/
  tables : DeviceTables
  /-- The number of changes that the `device` table has seen. -/
  version : Nat
  /-- The content of `hosts.cfg`. -/
  file : String
  /-- The version of the table that the content was read from. -/
  fileVersion : Nat
  /-- The requests, in order of arrival. -/
  requests : List RegenPhase
deriving DecidableEq

/-- A step of one request, by its place in the order of arrival. -/
inductive HostsLabel where
  /-- A request arrives. -/
  | arrive (request : RegenRequest)
  /-- A request loads its row and works out its change. -/
  | prepare (index : Nat)
  /-- A request commits. -/
  | commit (index : Nat)
  /-- A request reloads its row and reads the table, in some order of its rows. -/
  | read (index : Nat) (order : RowOrder Device)
  /-- A request writes the file. -/
  | write (index : Nat)

namespace HostsSystem

/-- The system with one request moved on. -/
def setPhase (state : HostsSystem) (index : Nat) (phase : RegenPhase) : HostsSystem :=
  { state with requests := state.requests.set index phase }

/-- The row that a handler reloads is still there. -/
def refreshable (state : HostsSystem) (refresh : Option Nat) : Bool :=
  refresh.all fun rowId => state.tables.devices.any fun device => device.id = rowId

/-- One step of one request. -/
def step (sharedSecret : String) (printable : Char → Bool) : Step HostsSystem HostsLabel
  | state, .arrive request => some { state with requests := state.requests ++ [.arrived request] }
  | state, .prepare index =>
    match state.requests[index]? with
    | some (.arrived (.change request)) =>
      match prepare printable state.tables request with
      | .error _ => some (state.setPhase index .finished)
      | .ok change => some (state.setPhase index (.prepared change))
    | some (.arrived (.regenerate isAdmin)) =>
      some (state.setPhase index (if isAdmin then .regenerating none else .finished))
    | _ => none
  | state, .commit index =>
    match state.requests[index]? with
    | some (.prepared change) =>
      match commit state.tables change.write with
      | .error _ => some (state.setPhase index .finished)
      | .ok (tables, rowId) =>
        let moved := state.setPhase index (.regenerating (change.write.refreshed rowId))
        some { moved with
          tables := tables
          version := if tables.devices = state.tables.devices then state.version
            else state.version + 1 }
    | _ => none
  | state, .read index order =>
    match state.requests[index]? with
    | some (.regenerating refresh) =>
      -- A row that is gone makes the reload raise, before the file is touched.
      if state.refreshable refresh then
        some (state.setPhase index
          (.rendered (hostsContent sharedSecret (order.rows state.tables.devices)) state.version))
      else some (state.setPhase index .finished)
    | _ => none
  | state, .write index =>
    match state.requests[index]? with
    | some (.rendered content version) =>
      some { state.setPhase index .finished with file := content, fileVersion := version }
    | _ => none

/-- The file is the rendering of the table. -/
def InSync (sharedSecret : String) (state : HostsSystem) : Prop :=
  state.file = hostsContent sharedSecret state.tables.devices

/-- Every request has been answered. -/
def AllFinished (state : HostsSystem) : Prop := ∀ phase ∈ state.requests, phase = .finished

end HostsSystem

end TacacsWeb.Model
