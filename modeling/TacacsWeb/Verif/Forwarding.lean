import TacacsWeb.Model.Forwarder

/-!
# Rows that are forwarded

The stored offset stands for every lower id, but ids become visible in the order of the
commits. A row is skipped when its transaction commits after the forwarder has passed its
id. Where no transaction does, every committed row up to the offset has been handed over to
the transport, whatever fails or restarts in between.
-/

namespace TacacsWeb.Verif

open TacacsWeb.Library TacacsWeb.Model

/-- Every committed row up to the offset of its stream has been handed over. -/
def Forwarded (state : ForwarderSystem) : Prop :=
  ∀ stream, ∀ id ∈ (state.streams stream).rows, id ≤ (state.streams stream).offset →
    (stream, id) ∈ state.sent

/-- No transaction commits an id that the offset has passed, and no offset is stored past a
row that was committed after the batch had been read. -/
def NonePassed (state : ForwarderSystem) : ForwarderLabel → Prop
  | .commit index => ∀ transaction, state.transactions[index]? = some transaction →
    ∀ stream id, (stream, id) ∈ transaction → (state.streams stream).offset < id
  | .save => ∀ batch, state.phase = .saving batch →
    ∀ stream, ∀ id ∈ (state.streams stream).rows, id ∉ (batch.query stream).visible →
      ∀ upper ∈ (batch.query stream).rows, upper < id
  | _ => True

/-- The batch under way was read with the stored offsets, and before they are stored again
all its lines have been handed over. -/
def BatchCurrent (state : ForwarderSystem) : ForwarderPhase → Prop
  | .idle => True
  | .auditRead audit => audit.last = (state.streams .auditLog).offset
  | .sending batch => ∀ stream, (batch.query stream).last = (state.streams stream).offset
  | .saving batch => (∀ stream, (batch.query stream).last = (state.streams stream).offset) ∧
    ∀ line ∈ batch.lines, line ∈ state.sent

/-- What every run keeps in which no row is passed. -/
structure ForwarderInvariant (state : ForwarderSystem) : Prop where
  /-- The committed rows up to the offsets have been handed over. -/
  forwarded : Forwarded state
  /-- The batch under way is current. -/
  current : BatchCurrent state state.phase

/-- A row that a transaction holds is among those it has inserted. -/
theorem mem_held {stream : Stream} {id : Nat} {transaction : List (Stream × Nat)} :
    id ∈ ForwarderSystem.held stream transaction ↔ (stream, id) ∈ transaction := by
  simp [ForwarderSystem.held]

/-- A field that an update of one stream keeps is kept for every stream. -/
theorem update_same {Value : Type} {streams : Stream → StreamLog} {stream : Stream}
    {log : StreamLog} (field : StreamLog → Value) (same : field log = field (streams stream))
    (other : Stream) :
    field (Function.update streams stream log other) = field (streams other) := by
  by_cases updated : other = stream
  · subst updated
    rw [Function.update_self]
    exact same
  · rw [Function.update_of_ne updated]

/-- The batch stays current when the offsets and what was sent stay. -/
theorem batchCurrent_of_same {state next : ForwarderSystem} {phase : ForwarderPhase}
    (current : BatchCurrent state phase)
    (offsets : ∀ stream, (next.streams stream).offset = (state.streams stream).offset)
    (batches : next.batches = state.batches) : BatchCurrent next phase := by
  have sent : next.sent = state.sent := by simp only [ForwarderSystem.sent, batches]
  cases phase with
  | idle => trivial
  | auditRead audit => exact current.trans (offsets _).symm
  | sending batch => exact fun stream => (current stream).trans (offsets stream).symm
  | saving batch =>
    exact ⟨fun stream => (current.1 stream).trans (offsets stream).symm,
      fun line listed => sent ▸ current.2 line listed⟩

/-- The steps of the transactions keep the invariant when no commit is below an offset. -/
theorem forwarderInvariant_transaction {state next : ForwarderSystem} {label : ForwarderLabel}
    (kept : ForwarderInvariant state) (guarded : NonePassed state label)
    (inserting : label = .openTransaction ∨ (∃ index stream, label = .insert index stream) ∨
      (∃ index, label = .commit index) ∨ ∃ index, label = .rollback index)
    (stepped : ForwarderSystem.step state label = some next) : ForwarderInvariant next := by
  rcases inserting with rfl | ⟨index, stream, rfl⟩ | ⟨index, rfl⟩ | ⟨index, rfl⟩
  · cases stepped
    exact ⟨kept.forwarded, batchCurrent_of_same kept.current (fun _ => rfl) rfl⟩
  · simp only [ForwarderSystem.step] at stepped
    split at stepped
    · cases stepped
      let advanced : StreamLog :=
        { state.streams stream with nextId := (state.streams stream).nextId + 1 }
      have rows : ∀ other, (Function.update state.streams stream advanced other).rows =
          (state.streams other).rows := update_same StreamLog.rows rfl
      have offsets : ∀ other, (Function.update state.streams stream advanced other).offset =
          (state.streams other).offset := update_same StreamLog.offset rfl
      refine ⟨fun other id committed passed => ?_,
        batchCurrent_of_same kept.current offsets rfl⟩
      have before : id ∈ (state.streams other).rows := rows other ▸ committed
      have passedBefore : id ≤ (state.streams other).offset := offsets other ▸ passed
      exact kept.forwarded other id before passedBefore
    · cases stepped
  · simp only [ForwarderSystem.step] at stepped
    split at stepped
    · rename_i transaction opened
      cases stepped
      refine ⟨fun stream id committed passed => ?_,
        batchCurrent_of_same kept.current (fun _ => rfl) rfl⟩
      rcases List.mem_append.mp committed with before | inserted
      · exact kept.forwarded stream id before passed
      · have above := guarded transaction opened stream id (mem_held.mp inserted)
        exact absurd passed (Nat.not_le.mpr above)
    · cases stepped
  · simp only [ForwarderSystem.step] at stepped
    split at stepped
    · cases stepped
      exact ⟨kept.forwarded, batchCurrent_of_same kept.current (fun _ => rfl) rfl⟩
    · cases stepped

/-- Reading and sending a batch keeps the invariant. -/
theorem forwarderInvariant_batch {state next : ForwarderSystem} {label : ForwarderLabel}
    (kept : ForwarderInvariant state)
    (reading : label = .selectAudit ∨ label = .selectAccounting ∨ ∃ count, label = .send count)
    (stepped : ForwarderSystem.step state label = some next) : ForwarderInvariant next := by
  rcases reading with rfl | rfl | ⟨count, rfl⟩
  · simp only [ForwarderSystem.step] at stepped
    split at stepped
    · split at stepped
      · cases stepped
        exact ⟨kept.forwarded, rfl⟩
      · cases stepped
    · cases stepped
  · simp only [ForwarderSystem.step] at stepped
    split at stepped
    · rename_i audit reading
      cases stepped
      have current : BatchCurrent state (.auditRead audit) := reading ▸ kept.current
      refine ⟨kept.forwarded, ?_⟩
      dsimp only
      split
      · trivial
      · intro stream
        cases stream with
        | auditLog => exact current
        | accountingRecord => rfl
    · cases stepped
  · simp only [ForwarderSystem.step] at stepped
    split at stepped
    · rename_i batch sending
      have current : BatchCurrent state (.sending batch) := sending ▸ kept.current
      split at stepped
      · cases stepped
        refine ⟨fun stream id committed passed => List.mem_append_right _
          (kept.forwarded stream id committed passed), ?_⟩
        dsimp only
        split
        · rename_i whole
          refine ⟨current, fun line listed => List.mem_append_left _ ?_⟩
          rwa [SentBatch.sent, whole, List.take_length]
        · trivial
      · cases stepped
    · cases stepped

/-- Storing the offsets keeps the invariant when no row was committed below them since the
batch was read. -/
theorem forwarderInvariant_save {state next : ForwarderSystem} (kept : ForwarderInvariant state)
    (guarded : NonePassed state .save)
    (stepped : ForwarderSystem.step state .save = some next) : ForwarderInvariant next := by
  simp only [ForwarderSystem.step] at stepped
  split at stepped
  · rename_i batch saving
    cases stepped
    have current : BatchCurrent state (.saving batch) := saving ▸ kept.current
    refine ⟨fun stream id committed passed => ?_, trivial⟩
    by_cases before : id ≤ (state.streams stream).offset
    · exact kept.forwarded stream id committed before
    have above : (state.streams stream).offset < id := Nat.not_le.mp before
    -- The offset has moved past the row, so the batch's last row of this stream is above it.
    cases last : (batch.query stream).rows.getLast? with
    | none =>
      simp only [last, Option.getD_none] at passed
      exact absurd passed before
    | some upper =>
      simp only [last, Option.getD_some] at passed
      have listed : upper ∈ (batch.query stream).rows := List.mem_of_getLast? last
      have visible : id ∈ (batch.query stream).visible := by
        by_contra unseen
        have beyond := guarded batch saving stream id committed unseen upper listed
        omega
      have selected : id ∈ (batch.query stream).rows :=
        mem_selectAfter_of_le visible (current.1 stream ▸ above) listed passed
      exact current.2 _ (Batch.mem_lines selected)
  · cases stepped

/-- Every step that passes no row keeps the invariant. -/
theorem forwarderInvariant_step {state next : ForwarderSystem} {label : ForwarderLabel}
    (kept : ForwarderInvariant state) (guarded : NonePassed state label)
    (stepped : ForwarderSystem.step state label = some next) : ForwarderInvariant next := by
  cases label with
  | openTransaction => exact forwarderInvariant_transaction kept guarded (.inl rfl) stepped
  | insert index stream =>
    exact forwarderInvariant_transaction kept guarded (.inr (.inl ⟨index, stream, rfl⟩)) stepped
  | commit index =>
    exact forwarderInvariant_transaction kept guarded (.inr (.inr (.inl ⟨index, rfl⟩))) stepped
  | rollback index =>
    exact forwarderInvariant_transaction kept guarded (.inr (.inr (.inr ⟨index, rfl⟩))) stepped
  | configure enabled =>
    cases stepped
    exact ⟨kept.forwarded, batchCurrent_of_same kept.current (fun _ => rfl) rfl⟩
  | selectAudit => exact forwarderInvariant_batch kept (.inl rfl) stepped
  | selectAccounting => exact forwarderInvariant_batch kept (.inr (.inl rfl)) stepped
  | send count => exact forwarderInvariant_batch kept (.inr (.inr ⟨count, rfl⟩)) stepped
  | save => exact forwarderInvariant_save kept guarded stepped
  | restart =>
    cases stepped
    exact ⟨kept.forwarded, trivial⟩

/-- In every run in which no row is passed, every committed row up to the offset of its stream
has been handed over to the transport. -/
theorem committed_rows_sent {start final : ForwarderSystem} {labels : List ForwarderLabel}
    (idle : start.phase = .idle) (forwarded : Forwarded start)
    (nonePassed : ForwarderSystem.step.Admits NonePassed start labels)
    (ran : ForwarderSystem.step.run start labels = some final) : Forwarded final := by
  have initial : ForwarderInvariant start := ⟨forwarded, by rw [idle]; trivial⟩
  have kept : ForwarderInvariant final :=
    Step.run_preserves _ (fun _ _ _ before guarded stepped =>
      forwarderInvariant_step before guarded stepped) initial nonePassed ran
  exact kept.forwarded

/-- A new installation with forwarding switched on. -/
def installed : ForwarderSystem := ⟨fun _ => ⟨1, [], 0⟩, [], true, .idle, []⟩

/-- Two transactions insert one audit row each and commit in the order of their ids; a batch
sends both rows. -/
def orderedCommits : List ForwarderLabel :=
  [.openTransaction, .insert 0 .auditLog, .openTransaction, .insert 1 .auditLog, .commit 0,
    .commit 0, .selectAudit, .selectAccounting, .send 2, .save]

/-- The state that these steps lead to. -/
def afterOrderedCommits : ForwarderSystem :=
  (ForwarderSystem.step.run installed orderedCommits).getD installed

/-- Two rows that are committed in the order of their ids are both forwarded. -/
theorem committed_rows_sent_ordered : Forwarded afterOrderedCommits :=
  @committed_rows_sent installed _ orderedCommits rfl
    (fun _ _ listed => absurd listed List.not_mem_nil)
    (.cons trivial rfl (.cons trivial rfl (.cons trivial rfl (.cons trivial rfl
      (.cons
        (fun _ opened stream id inserted => by
          cases opened
          obtain ⟨rfl, rfl⟩ := Prod.mk.inj (List.mem_singleton.mp inserted)
          decide)
        rfl
        (.cons
          (fun _ opened stream id inserted => by
            cases opened
            obtain ⟨rfl, rfl⟩ := Prod.mk.inj (List.mem_singleton.mp inserted)
            decide)
          rfl
          (.cons trivial rfl (.cons trivial rfl (.cons trivial rfl
            (.cons
              (fun batch saving stream id committed unseen _ _ => by
                cases saving
                cases stream <;> exact absurd committed unseen)
              rfl trivial))))))))))
    rfl

/-- The second of two open transactions commits first and its row is sent and passed, so the
row of the first is never sent. -/
theorem later_commit_skipped :
    ¬ ∀ (labels : List ForwarderLabel) (final : ForwarderSystem),
      ForwarderSystem.step.run installed labels = some final →
        final.transactions = [] → Forwarded final := by
  intro claimed
  have skipped := claimed
    [.openTransaction, .insert 0 .auditLog, .openTransaction, .insert 1 .auditLog, .commit 1,
      .selectAudit, .selectAccounting, .send 1, .save, .commit 0] _ rfl rfl
    .auditLog 1 (by decide) (by decide)
  revert skipped
  decide

end TacacsWeb.Verif
