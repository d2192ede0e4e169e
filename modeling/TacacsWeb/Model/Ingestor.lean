import TacacsWeb.Library.Run
import TacacsWeb.Library.Utf8
import TacacsWeb.Model.Accounting

/-!
# The accounting ingestor

`_consume_file` and `_tail_loop` of `app.accounting.ingestor` next to the daemon that
appends to the log. `readline` returns the bytes up to the next line end, or up to the end
of the file when there is none, and the position after it is the byte offset that is saved
with each row. The bytes that the daemon is still going to append are part of the state.
-/

namespace TacacsWeb.Model

open TacacsWeb.Library

/-- The bytes that `readline` takes from the front, and those it leaves: a carriage return ends
a line too, and takes a line feed after it along. Positions count the bytes taken, which is what
`tell` returns except behind a line that a carriage return alone has ended, where its cookie also
holds the state of the decoder. -/
def takeLine : List UInt8 → List UInt8 × List UInt8
  | [] => ([], [])
  | 13 :: 10 :: rest => ([13, 10], rest)
  | byte :: rest =>
    if byte = 10 ∨ byte = 13 then ([byte], rest)
    else (byte :: (takeLine rest).1, (takeLine rest).2)

/-- Universal newlines: `\r\n` and `\r` are read as `\n`. -/
def translateNewlines : List Char → List Char
  | [] => []
  | '\r' :: '\n' :: rest => '\n' :: translateNewlines rest
  | char :: rest => (if char = '\r' then '\n' else char) :: translateNewlines rest

/-- The text that `readline` returns for the bytes it takes. -/
def lineText (bytes : List UInt8) : List Char := translateNewlines (Utf8.decode bytes)

/-- The log, the database and the reader. -/
structure IngestSystem (Instant : Type) where
  /-- The bytes that the daemon is still going to append. -/
  pending : List UInt8
  /-- The log file. -/
  file : List UInt8
  /-- The committed rows, in order of insertion. -/
  rows : List (AccountingRecord Instant)
  /-- `system_setting('accounting.log_offset')`, zero while it is not set. -/
  offset : Nat
  /-- The position of the reader, none while no file is open. -/
  reader : Option Nat
deriving DecidableEq

/-- A step of the daemon or of the ingestor. -/
inductive IngestLabel where
  /-- The daemon appends its next bytes. -/
  | append (count : Nat)
  /-- `_consume_file` starts: it loads the offset and opens the file. -/
  | start
  /-- One `readline` and what follows it. -/
  | poll
deriving DecidableEq

namespace IngestSystem

variable {Instant : Type}

/-- What follows a `readline` that took these bytes at a position. -/
def handleLine (times : TimeReader Instant) (devices : List Device) (state : IngestSystem Instant)
    (position : Nat) (bytes : List UInt8) : IngestSystem Instant :=
  let next := position + bytes.length
  match parseRecord times (lineText bytes) with
  | none => { state with reader := some next }
  | some rec =>
    let row := persistOne devices rec
    if row.fits times then
      { state with rows := state.rows ++ [row], offset := next, reader := some next }
    -- The insertion raises, and the outer loop starts over from the saved offset.
    else { state with reader := none }

/-- One step. -/
def step (times : TimeReader Instant) (devices : List Device) :
    Step (IngestSystem Instant) IngestLabel
  | state, .append count =>
    some { state with
      pending := state.pending.drop count
      file := state.file ++ state.pending.take count }
  | state, .start =>
    match state.reader with
    | some _ => none
    | none =>
      if state.file.length < state.offset then some { state with offset := 0, reader := some 0 }
      else some { state with reader := some state.offset }
  | state, .poll =>
    match state.reader with
    | none => none
    | some position =>
      match takeLine (state.file.drop position) with
      | ([], _) =>
        -- The end of the file: a file that has shrunk is left to the outer loop.
        if state.file.length < position then some { state with reader := none } else some state
      | (bytes, _) => some (state.handleLine times devices position bytes)

end IngestSystem

end TacacsWeb.Model
