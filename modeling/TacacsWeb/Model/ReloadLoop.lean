import TacacsWeb.Library.Run
import TacacsWeb.Model.NasConfig

/-!
# The reload loop

`reload_loop` of `docker/tac_plus-ng/entrypoint.sh` next to the backend's rewrites of
`hosts.cfg`. `inotifywait` without `--monitor` exits on the first event that is raised while
it watches, so an event that is raised before the loop has started the next one is not
seen. A rewrite truncates the file, writes it and closes it; the backend does this without
giving way, so one rewrite ends before the next begins.
-/

namespace TacacsWeb.Model

open TacacsWeb.Library

/-- Where the loop is. -/
inductive LoopPhase where
  /-- `inotifywait` watches, with this number of events raised since it started. -/
  | armed (pending : Nat)
  /-- `inotifywait` has exited on an event and the signal is still to be sent. -/
  | awake
  /-- The signal has been sent and `inotifywait` is still to be started. -/
  | gap
deriving DecidableEq

/-- Where the backend is with `hosts.cfg`. -/
inductive WriterPhase where
  /-- No rewrite is in progress. -/
  | idle
  /-- The file has been opened and truncated; this is to be written. -/
  | truncated (content : String)
  /-- The content has been written and the file is still open. -/
  | written
deriving DecidableEq

/-- The file, the two parties and what the daemon has loaded. -/
structure ReloadSystem where
  /-- Whether `hosts.cfg` exists. -/
  present : Bool
  /-- The content of `hosts.cfg`, empty while it does not exist. -/
  file : String
  /-- The backend. -/
  writer : WriterPhase
  /-- The loop. -/
  loop : LoopPhase
  /-- The content that the daemon loaded last. -/
  loaded : String
  /-- The contents that it loaded before, latest first. -/
  earlier : List String
deriving DecidableEq

/-- A step of the backend or of the loop. -/
inductive ReloadLabel where
  /-- `HOSTS_FILE.write_text` opens the file for the rendering of these rows. -/
  | truncate (devices : List Device)
  /-- It writes the rendering. -/
  | write
  /-- It closes the file. -/
  | close
  /-- `inotifywait` exits on an event. -/
  | wake
  /-- `kill -HUP`: the daemon reads the file as it is. -/
  | signal
  /-- `inotifywait` is started. -/
  | arm

namespace ReloadSystem

/-- An event is seen only while `inotifywait` watches. -/
def raiseEvent : LoopPhase → LoopPhase
  | .armed pending => .armed (pending + 1)
  | phase => phase

/-- One step, under `TACACS_SHARED_SECRET`. -/
def step (sharedSecret : String) : Step ReloadSystem ReloadLabel
  | state, .truncate devices =>
    if state.writer = .idle then
      some { state with
        present := true
        file := ""
        writer := .truncated (hostsContent sharedSecret devices)
        loop := if state.present then state.loop else raiseEvent state.loop }
    else none
  | state, .write =>
    match state.writer with
    | .truncated content => some { state with file := content, writer := .written }
    | _ => none
  | state, .close =>
    if state.writer = .written then
      some { state with writer := .idle, loop := raiseEvent state.loop }
    else none
  | state, .wake =>
    match state.loop with
    | .armed (_ + 1) => some { state with loop := .awake }
    | _ => none
  | state, .signal =>
    if state.loop = .awake then
      some { state with
        loop := .gap, loaded := state.file, earlier := state.loaded :: state.earlier }
    else none
  | state, .arm => if state.loop = .gap then some { state with loop := .armed 0 } else none

end ReloadSystem

end TacacsWeb.Model
