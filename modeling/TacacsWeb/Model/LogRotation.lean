import TacacsWeb.Model.IngestorRuns

/-!
# The ingestor and a rotated log

The file at the path is truncated in place, or renamed with a new file created in its place,
while `_tail_loop` goes on. An ingestor that has the file open keeps reading the renamed one
and compares its position with the size of the file at the path. What the log held when it
was rotated, and whether an offset or a position belongs to such a content, is kept as
history that no step looks at.
-/

namespace TacacsWeb.Model

open TacacsWeb.Library

/-- The position of the file that is open in the phase. -/
def TailPhase.openAt {Instant : Type} : TailPhase Instant → Option Nat
  | .reading position => some position
  | .parsed _ position => some position
  | .staged _ position => some position
  | _ => none

/-- The log, the database and the ingestor, with what has been rotated out. -/
structure RotatingSystem (Instant : Type) where
  /-- The file at the path, none while there is none. -/
  log : Option (List UInt8)
  /-- The open file, when it is no longer the one at the path. -/
  renamed : Option (List UInt8)
  /-- The committed rows, in order of insertion. -/
  rows : List (AccountingRecord Instant)
  /-- `system_setting('accounting.log_offset')`, zero while it is not set. -/
  offset : Nat
  /-- Where the ingestor is. -/
  phase : TailPhase Instant
  /-- History: what was rotated out, joined. -/
  rotated : List UInt8
  /-- History: the saved offset is one in a content that was rotated out since. -/
  offsetStale : Bool
  /-- History: the position of the ingestor is one in a content that was rotated out since. -/
  readerStale : Bool
deriving DecidableEq

/-- A step of the rotation, or of those that there are without it. -/
inductive RotationLabel where
  /-- The log is truncated in place. -/
  | truncate
  /-- The log is renamed. -/
  | rename
  /-- A new log is created at the path. -/
  | create
  /-- A step of the daemon, of the ingestor or of the database. -/
  | tail (label : TailLabel)
deriving DecidableEq

namespace RotatingSystem

variable {Instant : Type}

/-- The content of the open file. -/
def opened (state : RotatingSystem Instant) : List UInt8 :=
  state.renamed.getD (state.log.getD [])

/-- A change of phase, which closes the file when the phase is one without it. -/
def enter (state : RotatingSystem Instant) (phase : TailPhase Instant) : RotatingSystem Instant :=
  { state with phase, renamed := if phase.openAt.isSome then state.renamed else none }

/-- A commit of rows and an offset, and where the ingestor is once it returns. -/
def commit (state : RotatingSystem Instant) (rows : List (AccountingRecord Instant))
    (offset : Nat) (stale : Bool) (returned : TailPhase Instant) :
    CommitOutcome → RotatingSystem Instant
  | .answered => { state.enter returned with
      rows := state.rows ++ rows, offset, offsetStale := stale, readerStale := stale }
  | .unanswered => { state.enter .waiting with
      rows := state.rows ++ rows, offset, offsetStale := stale }
  | .refused => state.enter .waiting

/-- The phase after the end of the open file: `stat` compares the log with the position, or finds
no file. -/
def endOfFile (position : Nat) : Option (List UInt8) → TailPhase Instant
  | none => .waiting
  | some log => if log.length < position then .waiting else .reading position

/-- The phase after a `readline` at a position of the open file. -/
def readLine (times : TimeReader Instant) (opened : List UInt8) (log : Option (List UInt8))
    (position : Nat) : TailPhase Instant :=
  match takeLine (opened.drop position) with
  | ([], _) => endOfFile position log
  | (bytes, _) => TailSystem.lineRead times position bytes

/-- The position is the start of whatever is at the path. -/
def atStart (state : RotatingSystem Instant) : Bool :=
  match state.phase with
  | .loaded position => position = 0
  | .reading position => position = 0 && state.renamed.isNone
  | _ => false

/-- One step. -/
def step (times : TimeReader Instant) (state : RotatingSystem Instant) :
    RotationLabel → Option (RotatingSystem Instant)
  | .truncate => state.log.map fun content => { state with
      log := some []
      rotated := state.rotated ++ content
      offsetStale := state.offset ≠ 0
      readerStale := !state.atStart }
  | .rename => state.log.map fun content => { state with
      log := none
      renamed := if state.phase.openAt.isSome then state.renamed.or (some content) else none
      rotated := state.rotated ++ content
      offsetStale := state.offset ≠ 0
      readerStale := state.phase.openAt.isSome || !state.atStart }
  | .create => if state.log.isSome then none else some { state with log := some [] }
  | .tail label =>
    match label, state.phase with
    | .append bytes, _ => state.log.map fun content => { state with log := some (content ++ bytes) }
    | .interrupt, _ => some (state.enter .waiting)
    | .load, .waiting =>
      match state.log with
      | none => some state
      | some content =>
        if content.length < state.offset then some (state.enter .resetting)
        else some { state.enter (.loaded state.offset) with readerStale := state.offsetStale }
    | .commit outcome, .resetting => some (state.commit [] 0 false (.loaded 0) outcome)
    | .openFile, .loaded offset =>
      some (state.enter (if state.log.isSome then .reading offset else .waiting))
    | .readLine, .reading position =>
      some (state.enter (readLine times state.opened state.log position))
    | .persist devices, .parsed rec position =>
      some (state.enter (TailSystem.persist times devices rec position))
    | .commit outcome, .staged row position =>
      some (state.commit [row] position state.readerStale (.reading position) outcome)
    | _, _ => none

/-- There is no log yet, and nothing has been saved. -/
def fresh : RotatingSystem Instant := ⟨none, none, [], 0, .waiting, [], false, false⟩

end RotatingSystem

end TacacsWeb.Model
