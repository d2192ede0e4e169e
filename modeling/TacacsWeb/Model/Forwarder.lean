import Mathlib.Data.List.Sort
import Mathlib.Logic.Function.Basic
import TacacsWeb.Library.Run

/-!
# The syslog forwarder

`_process_one_batch` of `app/syslog/forwarder.py` next to the transactions that insert
`audit_log` and `accounting_record` rows. A row takes its id from the sequence when it is
flushed and is seen by others once its transaction commits; every query of a batch sees what
is committed when it runs. A row stands here for its id: the texts of the lines are the
formatters' concern. One forwarder task runs, so batches do not overlap.
-/

namespace TacacsWeb.Model

open TacacsWeb.Library

/-- The tables that are forwarded, each with an offset of its own. -/
inductive Stream where
  /-- `audit_log`, with `syslog.last_audit_id`. -/
  | auditLog
  /-- `accounting_record`, with `syslog.last_forwarded_id`. -/
  | accountingRecord
deriving DecidableEq

/-- A table, its sequence and its stored offset. -/
structure StreamLog where
  /-- The id that the sequence gives next. -/
  nextId : Nat
  /-- The ids of the committed rows, in the order of their commits. -/
  rows : List Nat
  /-- The stored offset, zero when none is stored. -/
  offset : Nat

/-- `BATCH_SIZE`. -/
def batchSize : Nat := 200

/-- `where(id > last).order_by(id).limit(BATCH_SIZE)`. -/
def selectAfter (last : Nat) (rows : List Nat) : List Nat :=
  ((rows.filter (last < ·)).insertionSort (· ≤ ·)).take batchSize

/-- Every selected id is committed and lies above the offset. -/
theorem mem_selectAfter {last id : Nat} {rows : List Nat} (selected : id ∈ selectAfter last rows) :
    id ∈ rows ∧ last < id := by
  have sorted := List.mem_of_mem_take selected
  rw [List.mem_insertionSort, List.mem_filter] at sorted
  exact ⟨sorted.1, of_decide_eq_true sorted.2⟩

/-- A committed id between the offset and a selected id is selected. -/
theorem mem_selectAfter_of_le {last id upper : Nat} {rows : List Nat} (committed : id ∈ rows)
    (above : last < id) (selected : upper ∈ selectAfter last rows) (below : id ≤ upper) :
    id ∈ selectAfter last rows := by
  have ordered : ((rows.filter (last < ·)).insertionSort (· ≤ ·)).Pairwise (· ≤ ·) :=
    List.pairwise_insertionSort (· ≤ ·) _
  have listed : id ∈ (rows.filter (last < ·)).insertionSort (· ≤ ·) := by
    rw [List.mem_insertionSort]
    exact List.mem_filter.mpr ⟨committed, decide_eq_true above⟩
  rw [← List.take_append_drop batchSize ((rows.filter (last < ·)).insertionSort (· ≤ ·))]
    at ordered listed
  rcases List.mem_append.mp listed with taken | dropped
  · exact taken
  · -- What the limit leaves out is no lower than what it keeps.
    have bound : upper ≤ id := (List.pairwise_append.mp ordered).2.2 upper selected id dropped
    rwa [Nat.le_antisymm below bound]

/-- What one query of a batch was asked and saw. -/
structure Selected where
  /-- The offset that was read before. -/
  last : Nat
  /-- The ids that were committed when the query ran. -/
  visible : List Nat

/-- The ids that the query returned. -/
def Selected.rows (selected : Selected) : List Nat := selectAfter selected.last selected.visible

/-- The two queries of a batch. -/
structure Batch where
  /-- `audit_rows`. -/
  audit : Selected
  /-- `acct_rows`. -/
  accounting : Selected

namespace Batch

/-- The query on a stream. -/
def query (batch : Batch) : Stream → Selected
  | .auditLog => batch.audit
  | .accountingRecord => batch.accounting

/-- The lines in the order in which they are sent. -/
def lines (batch : Batch) : List (Stream × Nat) :=
  batch.audit.rows.map (Stream.auditLog, ·) ++
    batch.accounting.rows.map (Stream.accountingRecord, ·)

/-- Every selected row has its line. -/
theorem mem_lines {batch : Batch} {stream : Stream} {id : Nat}
    (selected : id ∈ (batch.query stream).rows) : (stream, id) ∈ batch.lines := by
  cases stream with
  | auditLog => exact List.mem_append_left _ (List.mem_map.mpr ⟨id, selected, rfl⟩)
  | accountingRecord => exact List.mem_append_right _ (List.mem_map.mpr ⟨id, selected, rfl⟩)

end Batch

/-- Where the forwarder task is. -/
inductive ForwarderPhase where
  /-- Between two batches. -/
  | idle
  /-- The audit rows have been read and the accounting rows are still to be. -/
  | auditRead (audit : Selected)
  /-- Both queries have run and the lines are to be sent. -/
  | sending (batch : Batch)
  /-- Every line has been handed over and the offsets are to be stored. -/
  | saving (batch : Batch)

/-- The lines of a batch and how many of them were handed to the transport. -/
structure SentBatch where
  /-- The batch. -/
  batch : Batch
  /-- How many lines were handed over before the transport failed, or all of them. -/
  handed : Nat

/-- The lines of a batch that were handed over. -/
def SentBatch.sent (attempt : SentBatch) : List (Stream × Nat) :=
  attempt.batch.lines.take attempt.handed

/-- The database, the open transactions and the forwarder. -/
structure ForwarderSystem where
  /-- The two tables. -/
  streams : Stream → StreamLog
  /-- The rows that every open transaction has inserted, one list each. -/
  transactions : List (List (Stream × Nat))
  /-- Whether forwarding is enabled and a host is set. -/
  configured : Bool
  /-- The forwarder task. -/
  phase : ForwarderPhase
  /-- The batches sent so far, latest first. -/
  batches : List SentBatch

/-- A step of a transaction, of the settings page or of the forwarder. -/
inductive ForwarderLabel where
  /-- A transaction is opened. -/
  | openTransaction
  /-- The transaction at this index flushes a row of the stream. -/
  | insert (index : Nat) (stream : Stream)
  /-- It commits. -/
  | commit (index : Nat)
  /-- It rolls back, or its process stops. -/
  | rollback (index : Nat)
  /-- The forwarder settings are changed. -/
  | configure (enabled : Bool)
  /-- A batch begins and reads the audit rows. -/
  | selectAudit
  /-- It reads the accounting rows. -/
  | selectAccounting
  /-- `_send_lines`: this many lines are handed over, and fewer than all when it raises. -/
  | send (count : Nat)
  /-- The offsets are stored. -/
  | save
  /-- The task or its process stops and starts again. -/
  | restart

namespace ForwarderSystem

/-- The rows of one stream that a transaction holds. -/
def held (stream : Stream) (transaction : List (Stream × Nat)) : List Nat :=
  (transaction.filter (·.1 = stream)).map (·.2)

/-- A query of the stream at this moment. -/
def query (state : ForwarderSystem) (stream : Stream) : Selected :=
  ⟨(state.streams stream).offset, (state.streams stream).rows⟩

/-- Every line handed over to the transport so far. -/
def sent (state : ForwarderSystem) : List (Stream × Nat) := state.batches.flatMap SentBatch.sent

/-- One step. -/
def step : Step ForwarderSystem ForwarderLabel
  | state, .openTransaction => some { state with transactions := state.transactions ++ [[]] }
  | state, .insert index stream =>
    match state.transactions[index]? with
    | some transaction =>
      let log := state.streams stream
      some { state with
        streams := Function.update state.streams stream { log with nextId := log.nextId + 1 }
        transactions := state.transactions.set index (transaction ++ [(stream, log.nextId)]) }
    | none => none
  | state, .commit index =>
    match state.transactions[index]? with
    | some transaction =>
      some { state with
        streams := fun stream =>
          let log := state.streams stream
          { log with rows := log.rows ++ held stream transaction }
        transactions := state.transactions.eraseIdx index }
    | none => none
  | state, .rollback index =>
    if index < state.transactions.length then
      some { state with transactions := state.transactions.eraseIdx index }
    else none
  | state, .configure enabled => some { state with configured := enabled }
  | state, .selectAudit =>
    match state.phase with
    | .idle =>
      if state.configured then some { state with phase := .auditRead (state.query .auditLog) }
      else none
    | _ => none
  | state, .selectAccounting =>
    match state.phase with
    | .auditRead audit =>
      -- Both offsets are read before the audit rows; nobody else stores them in between.
      let batch : Batch := ⟨audit, state.query .accountingRecord⟩
      some { state with phase := if batch.lines = [] then .idle else .sending batch }
    | _ => none
  | state, .send count =>
    match state.phase with
    | .sending batch =>
      if count ≤ batch.lines.length then
        some { state with
          phase := if count = batch.lines.length then .saving batch else .idle
          batches := ⟨batch, count⟩ :: state.batches }
      else none
    | _ => none
  | state, .save =>
    match state.phase with
    | .saving batch =>
      some { state with
        streams := fun stream =>
          let log := state.streams stream
          { log with offset := (batch.query stream).rows.getLast?.getD log.offset }
        phase := .idle }
    | _ => none
  | state, .restart => some { state with phase := .idle }

end ForwarderSystem

end TacacsWeb.Model
