import TacacsWeb.Model.Ingestor

/-!
# The ingestor with its database

`_tail_loop` step by step: the offset is loaded, the file opened, a line read, its row and the
offset after it put into a session, and the two committed together. Whenever an operation of
the database raises or the process stops, what the ingestor holds is lost, and `_consume_file`
starts over from what is committed. While there is no file the outer loop waits.
-/

namespace TacacsWeb.Model

open TacacsWeb.Library

/-- How a commit ends. -/
inductive CommitOutcome where
  /-- It is applied and returns. -/
  | answered
  /-- It is applied, but raises or the process stops before it returns. -/
  | unanswered
  /-- It is not applied and raises. -/
  | refused
deriving DecidableEq

/-- Where the ingestor is. -/
inductive TailPhase (Instant : Type) where
  /-- Outside `_consume_file`, or the process is down. -/
  | waiting
  /-- The saved offset is beyond the file, and a transaction sets it to zero. -/
  | resetting
  /-- The offset is loaded, and the file is not open yet. -/
  | loaded (offset : Nat)
  /-- The file is open at a position. -/
  | reading (position : Nat)
  /-- A line that ends at the position has given a record. -/
  | parsed (rec : ParsedRecord Instant) (position : Nat)
  /-- The session holds the row of the record and the position as the new offset. -/
  | staged (row : AccountingRecord Instant) (position : Nat)
deriving DecidableEq

/-- The log, the database and the ingestor. -/
structure TailSystem (Instant : Type) where
  /-- The log file. -/
  file : List UInt8
  /-- The committed rows, in order of insertion. -/
  rows : List (AccountingRecord Instant)
  /-- `system_setting('accounting.log_offset')`, zero while it is not set. -/
  offset : Nat
  /-- Where the ingestor is. -/
  phase : TailPhase Instant
deriving DecidableEq

/-- A step of the daemon, of the ingestor or of the database. -/
inductive TailLabel where
  /-- The daemon appends bytes. -/
  | append (bytes : List UInt8)
  /-- `_load_offset`, and the size of the file. -/
  | load
  /-- `path.open` and `f.seek`. -/
  | openFile
  /-- `f.readline` and `parse_record`. -/
  | readLine
  /-- `_persist_one`, with the devices that it finds, and `_save_offset`. -/
  | persist (devices : List Device)
  /-- `session.commit`. -/
  | commit (outcome : CommitOutcome)
  /-- An operation of the database raises, or the process stops. -/
  | interrupt
deriving DecidableEq

namespace TailSystem

variable {Instant : Type}

/-- A commit of rows and an offset, and where the ingestor is once it returns. -/
def commit (state : TailSystem Instant) (rows : List (AccountingRecord Instant)) (offset : Nat)
    (returned : TailPhase Instant) : CommitOutcome → TailSystem Instant
  | .answered => { state with rows := state.rows ++ rows, offset := offset, phase := returned }
  | .unanswered => { state with rows := state.rows ++ rows, offset := offset, phase := .waiting }
  | .refused => { state with phase := .waiting }

/-- The phase after a `readline` that took these bytes at a position. -/
def lineRead (times : TimeReader Instant) (position : Nat) (bytes : List UInt8) :
    TailPhase Instant :=
  match parseRecord times (lineText bytes) with
  | none => .reading (position + bytes.length)
  | some rec => .parsed rec (position + bytes.length)

/-- The phase after a `readline` at a position. -/
def readLine (times : TimeReader Instant) (file : List UInt8) (position : Nat) :
    TailPhase Instant :=
  match takeLine (file.drop position) with
  | ([], _) => if file.length < position then .waiting else .reading position
  | (bytes, _) => lineRead times position bytes

/-- The phase after `_persist_one` and `_save_offset`, whose query sends the row to the database:
it raises where a value does not fit its column. -/
def persist (times : TimeReader Instant) (devices : List Device) (rec : ParsedRecord Instant)
    (position : Nat) : TailPhase Instant :=
  let row := persistOne devices rec
  if row.fits times then .staged row position else .waiting

/-- One step. -/
def step (times : TimeReader Instant) (state : TailSystem Instant) (label : TailLabel) :
    Option (TailSystem Instant) :=
  match label, state.phase with
  | .append bytes, _ => some { state with file := state.file ++ bytes }
  | .interrupt, _ => some { state with phase := .waiting }
  | .load, .waiting =>
    if state.file.length < state.offset then some { state with phase := .resetting }
    else some { state with phase := .loaded state.offset }
  | .commit outcome, .resetting => some (state.commit [] 0 (.loaded 0) outcome)
  | .openFile, .loaded offset => some { state with phase := .reading offset }
  | .readLine, .reading position =>
    some { state with phase := readLine times state.file position }
  | .persist devices, .parsed rec position =>
    some { state with phase := persist times devices rec position }
  | .commit outcome, .staged row position =>
    some (state.commit [row] position (.reading position) outcome)
  | _, _ => none

/-- Nothing has been logged or saved yet. -/
def fresh : TailSystem Instant := ⟨[], [], 0, .waiting⟩

end TailSystem

end TacacsWeb.Model
