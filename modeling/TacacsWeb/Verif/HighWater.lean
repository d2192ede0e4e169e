import TacacsWeb.Verif.Forwarding

/-!
# The stored offsets as a high-water mark

When the rows of a stream become visible in the order of their ids, the stored offset is a
high-water mark whatever fails, stops or is switched on and off: it never decreases, every
committed row up to it was sent in order in a batch that was handed over whole, and only
storing the offsets of such a batch moves it. Without failures every row is sent once.
-/

namespace TacacsWeb.Verif

open TacacsWeb.Library TacacsWeb.Model

/-- The rows of a transaction that commits follow the committed rows of their streams. -/
def InIdOrder (state : ForwarderSystem) : ForwarderLabel → Prop
  | .commit index => ∀ transaction, state.transactions[index]? = some transaction →
    ∀ stream id, (stream, id) ∈ transaction → ∀ row ∈ (state.streams stream).rows, row < id
  | _ => True

/-- The transport takes every line and the forwarder is not restarted. -/
def NothingFails (state : ForwarderSystem) : ForwarderLabel → Prop
  | .send count => ∀ batch, state.phase = .sending batch → count = batch.lines.length
  | .restart => False
  | _ => True

/-- The rows of the batch that was handed over and whose offsets are still to be stored. -/
def unsaved (stream : Stream) : ForwarderPhase → List Nat
  | .saving batch => (batch.query stream).rows
  | _ => []

/-- The rows are numbered from the sequence of their stream and committed in that order. -/
structure RowsInOrder (state : ForwarderSystem) : Prop where
  /-- Every sequence starts above zero. -/
  started : ∀ stream, 0 < (state.streams stream).nextId
  /-- The rows that a transaction holds took their ids from the sequence. -/
  numbered : ∀ stream, ∀ transaction ∈ state.transactions,
    ∀ id ∈ ForwarderSystem.held stream transaction, 0 < id ∧ id < (state.streams stream).nextId
  /-- A transaction holds them in the order of their ids. -/
  heldAscending : ∀ stream, ∀ transaction ∈ state.transactions,
    (ForwarderSystem.held stream transaction).Pairwise (· < ·)
  /-- The committed rows have positive ids. -/
  positive : ∀ stream, ∀ id ∈ (state.streams stream).rows, 0 < id
  /-- They are committed in the order of their ids. -/
  ascending : ∀ stream, (state.streams stream).rows.Pairwise (· < ·)

/-- A query was asked with the stored offset and saw the rows that were committed first. -/
structure ReadBefore (log : StreamLog) (selected : Selected) : Prop where
  /-- The offset is still the stored one. -/
  last : selected.last = log.offset
  /-- What was committed since comes after what the query saw. -/
  visible : selected.visible <+: log.rows

/-- The queries of the batch under way, which is the latest one once it is handed over. -/
def BatchUnderWay (state : ForwarderSystem) : ForwarderPhase → Prop
  | .idle => True
  | .auditRead audit => ReadBefore (state.streams .auditLog) audit
  | .sending batch => ∀ stream, ReadBefore (state.streams stream) (batch.query stream)
  | .saving batch => (∀ stream, ReadBefore (state.streams stream) (batch.query stream)) ∧
    ∃ attempts, state.batches = ⟨batch, batch.lines.length⟩ :: attempts

/-- A row was sent, in id order within its batch, in a batch that was handed over whole. -/
def SentInOrder (state : ForwarderSystem) (stream : Stream) (id : Nat) : Prop :=
  ∃ attempt ∈ state.batches, id ∈ (attempt.batch.query stream).rows ∧
    (attempt.batch.query stream).rows.Pairwise (· < ·) ∧
    attempt.sent = attempt.batch.lines

/-- Every row up to the offset of its stream was sent in order in a whole batch. -/
def HighWater (state : ForwarderSystem) : Prop :=
  ∀ stream, ∀ id ∈ (state.streams stream).rows, id ≤ (state.streams stream).offset →
    SentInOrder state stream id

/-- What every run keeps whose rows become visible in order. -/
structure HighWaterInvariant (state : ForwarderSystem) : Prop where
  /-- The rows are in order. -/
  rows : RowsInOrder state
  /-- The batch under way was read from the rows as they are. -/
  batch : BatchUnderWay state state.phase
  /-- An offset is zero or the id of a committed row. -/
  marked : ∀ stream, (state.streams stream).offset = 0 ∨
    (state.streams stream).offset ∈ (state.streams stream).rows
  /-- The rows up to the offsets were sent. -/
  sent : HighWater state

/-- What a query returns from rows in order keeps their order. -/
theorem selectAfter_sublist {last : Nat} {rows : List Nat} (ascending : rows.Pairwise (· < ·)) :
    (selectAfter last rows).Sublist rows := by
  have filtered : (rows.filter (last < ·)).Sublist rows := List.filter_sublist
  have sorted : (rows.filter (last < ·)).Pairwise (· ≤ ·) :=
    (ascending.sublist filtered).imp Nat.le_of_lt
  rw [selectAfter, sorted.insertionSort_eq]
  exact (List.take_sublist _ _).trans filtered

/-- The rows of a query in order are in order. -/
theorem ReadBefore.rows_ascending {log : StreamLog} {selected : Selected}
    (read : ReadBefore log selected) (ascending : log.rows.Pairwise (· < ·)) :
    selected.rows.Pairwise (· < ·) := by
  have visible : selected.visible.Pairwise (· < ·) := ascending.sublist read.visible.sublist
  exact visible.sublist (selectAfter_sublist visible)

/-- A row that a query returned is committed and lies above the offset. -/
theorem ReadBefore.above {log : StreamLog} {selected : Selected} (read : ReadBefore log selected)
    {id : Nat} (listed : id ∈ selected.rows) : id ∈ log.rows ∧ log.offset < id := by
  have found := mem_selectAfter listed
  exact ⟨read.visible.subset found.1, read.last ▸ found.2⟩

/-- A committed row above the offset and up to a returned row was returned. -/
theorem ReadBefore.mem_of_le {log : StreamLog} {selected : Selected}
    (read : ReadBefore log selected) (ascending : log.rows.Pairwise (· < ·)) {id upper : Nat}
    (committed : id ∈ log.rows) (above : log.offset < id)
    (listed : upper ∈ selected.rows) (below : id ≤ upper) : id ∈ selected.rows := by
  obtain ⟨later, rows⟩ := read.visible
  have visible : id ∈ selected.visible := by
    rw [← rows] at committed ascending
    rcases List.mem_append.mp committed with seen | since
    · exact seen
    · -- What was committed since is above everything that the query saw.
      have beyond : upper < id :=
        (List.pairwise_append.mp ascending).2.2 upper (mem_selectAfter listed).1 id since
      omega
  exact mem_selectAfter_of_le visible (read.last ▸ above) listed below

/-- The last row of a query in order is its greatest. -/
theorem le_getLast {rows : List Nat} (ascending : rows.Pairwise (· < ·)) {last id : Nat}
    (final : rows.getLast? = some last) (listed : id ∈ rows) : id ≤ last := by
  obtain ⟨before, rfl⟩ := List.getLast?_eq_some_iff.mp final
  rcases List.mem_append.mp listed with earlier | same
  · exact Nat.le_of_lt
      ((List.pairwise_append.mp ascending).2.2 id earlier last (List.mem_singleton_self last))
  · exact Nat.le_of_eq (List.mem_singleton.mp same)

/-- What a transaction holds of a stream after it inserted a row. -/
theorem held_insert (other stream : Stream) (transaction : List (Stream × Nat)) (id : Nat) :
    ForwarderSystem.held other (transaction ++ [(stream, id)]) =
      ForwarderSystem.held other transaction ++ if stream = other then [id] else [] := by
  by_cases same : stream = other <;> simp [ForwarderSystem.held, same]

/-- Inserting a row keeps the rows in order. -/
theorem rowsInOrder_insert {state next : ForwarderSystem} {index : Nat} {stream : Stream}
    (ordered : RowsInOrder state)
    (stepped : ForwarderSystem.step state (.insert index stream) = some next) :
    RowsInOrder next := by
  simp only [ForwarderSystem.step] at stepped
  split at stepped
  · rename_i transaction opened
    cases stepped
    have listed : transaction ∈ state.transactions := List.mem_of_getElem? opened
    let advanced : StreamLog :=
      { state.streams stream with nextId := (state.streams stream).nextId + 1 }
    have rows : ∀ other, (Function.update state.streams stream advanced other).rows =
        (state.streams other).rows := update_same StreamLog.rows rfl
    have later : ∀ other, (state.streams other).nextId ≤
        (Function.update state.streams stream advanced other).nextId := by
      intro other
      by_cases updated : other = stream
      · subst updated
        rw [Function.update_self]
        exact Nat.le_succ _
      · rw [Function.update_of_ne updated]
    refine ⟨fun other => Nat.lt_of_lt_of_le (ordered.started other) (later other),
      fun other held mem id inserted => ?_, fun other held mem => ?_,
      fun other id committed => ordered.positive other id (rows other ▸ committed),
      fun other => (rows other).symm ▸ ordered.ascending other⟩
    · rcases List.mem_or_eq_of_mem_set mem with before | rfl
      · have bounds := ordered.numbered other held before id inserted
        exact ⟨bounds.1, Nat.lt_of_lt_of_le bounds.2 (later other)⟩
      · rw [held_insert] at inserted
        rcases List.mem_append.mp inserted with before | added
        · have bounds := ordered.numbered other transaction listed id before
          exact ⟨bounds.1, Nat.lt_of_lt_of_le bounds.2 (later other)⟩
        · by_cases same : stream = other
          · subst same
            rw [if_pos rfl, List.mem_singleton] at added
            subst added
            refine ⟨ordered.started stream, ?_⟩
            dsimp only
            rw [Function.update_self]
            exact Nat.lt_succ_self _
          · rw [if_neg same] at added
            exact absurd added List.not_mem_nil
    · rcases List.mem_or_eq_of_mem_set mem with before | rfl
      · exact ordered.heldAscending other held before
      · rw [held_insert]
        have before := ordered.heldAscending other transaction listed
        by_cases same : stream = other
        · subst same
          rw [if_pos rfl]
          refine List.pairwise_append.mpr ⟨before, List.pairwise_singleton _ _, ?_⟩
          intro id inserted last final
          rw [List.mem_singleton.mp final]
          exact (ordered.numbered stream transaction listed id inserted).2
        · rw [if_neg same, List.append_nil]
          exact before
  · cases stepped

/-- A commit in the order of the ids keeps the rows in order. -/
theorem rowsInOrder_commit {state next : ForwarderSystem} {index : Nat}
    (ordered : RowsInOrder state) (guarded : InIdOrder state (.commit index))
    (stepped : ForwarderSystem.step state (.commit index) = some next) : RowsInOrder next := by
  simp only [ForwarderSystem.step] at stepped
  split at stepped
  · rename_i transaction opened
    cases stepped
    have listed : transaction ∈ state.transactions := List.mem_of_getElem? opened
    refine ⟨ordered.started, fun stream held mem id inserted => ?_, fun stream held mem => ?_,
      fun stream id committed => ?_, fun stream => ?_⟩
    · exact ordered.numbered stream held (List.mem_of_mem_eraseIdx mem) id inserted
    · exact ordered.heldAscending stream held (List.mem_of_mem_eraseIdx mem)
    · rcases List.mem_append.mp committed with before | inserted
      · exact ordered.positive stream id before
      · exact (ordered.numbered stream transaction listed id inserted).1
    · refine List.pairwise_append.mpr ⟨ordered.ascending stream,
        ordered.heldAscending stream transaction listed, ?_⟩
      intro row committed id inserted
      exact guarded transaction opened stream id (mem_held.mp inserted) row committed
  · cases stepped

/-- The rows stay in order while the sequences and the committed rows stay and no transaction
is added. -/
theorem rowsInOrder_of_same {state next : ForwarderSystem} (ordered : RowsInOrder state)
    (nextIds : ∀ stream, (next.streams stream).nextId = (state.streams stream).nextId)
    (rows : ∀ stream, (next.streams stream).rows = (state.streams stream).rows)
    (transactions : ∀ transaction ∈ next.transactions,
      transaction = [] ∨ transaction ∈ state.transactions) : RowsInOrder next := by
  refine ⟨fun stream => nextIds stream ▸ ordered.started stream,
    fun stream transaction listed id inserted => ?_, fun stream transaction listed => ?_,
    fun stream id committed => ordered.positive stream id (rows stream ▸ committed),
    fun stream => (rows stream).symm ▸ ordered.ascending stream⟩
  · rcases transactions transaction listed with rfl | before
    · exact absurd inserted List.not_mem_nil
    · rw [nextIds stream]
      exact ordered.numbered stream transaction before id inserted
  · rcases transactions transaction listed with rfl | before
    · exact List.Pairwise.nil
    · exact ordered.heldAscending stream transaction before

/-- Every step whose commits are in order keeps the rows in order. -/
theorem rowsInOrder_step {state next : ForwarderSystem} {label : ForwarderLabel}
    (ordered : RowsInOrder state) (guarded : InIdOrder state label)
    (stepped : ForwarderSystem.step state label = some next) : RowsInOrder next := by
  cases label with
  | openTransaction =>
    cases stepped
    refine rowsInOrder_of_same ordered (fun _ => rfl) (fun _ => rfl) fun transaction listed => ?_
    rcases List.mem_append.mp listed with before | added
    · exact .inr before
    · exact .inl (List.mem_singleton.mp added)
  | insert index stream => exact rowsInOrder_insert ordered stepped
  | commit index => exact rowsInOrder_commit ordered guarded stepped
  | rollback index =>
    simp only [ForwarderSystem.step] at stepped
    split at stepped
    · cases stepped
      exact rowsInOrder_of_same ordered (fun _ => rfl) (fun _ => rfl)
        fun _ listed => .inr (List.mem_of_mem_eraseIdx listed)
    · cases stepped
  | configure | restart =>
    cases stepped
    exact rowsInOrder_of_same ordered (fun _ => rfl) (fun _ => rfl) fun _ listed => .inr listed
  | selectAudit | selectAccounting | send | save =>
    simp only [ForwarderSystem.step] at stepped
    repeat' split at stepped
    all_goals cases stepped
    all_goals
      exact rowsInOrder_of_same ordered (fun _ => rfl) (fun _ => rfl) fun _ listed => .inr listed

/-- A query stays current when the offset stays and rows are only added after the others. -/
theorem ReadBefore.extended {log next : StreamLog} {selected : Selected}
    (read : ReadBefore log selected) (offset : next.offset = log.offset)
    (rows : log.rows <+: next.rows) : ReadBefore next selected :=
  ⟨read.last.trans offset.symm, read.visible.trans rows⟩

/-- The batch under way stays current in the same way. -/
theorem batchUnderWay_extended {state next : ForwarderSystem} {phase : ForwarderPhase}
    (underWay : BatchUnderWay state phase)
    (offsets : ∀ stream, (next.streams stream).offset = (state.streams stream).offset)
    (rows : ∀ stream, (state.streams stream).rows <+: (next.streams stream).rows)
    (batches : next.batches = state.batches) : BatchUnderWay next phase := by
  cases phase with
  | idle => trivial
  | auditRead audit => exact ReadBefore.extended underWay (offsets _) (rows _)
  | sending batch => exact fun stream => (underWay stream).extended (offsets stream) (rows stream)
  | saving batch =>
    exact ⟨fun stream => (underWay.1 stream).extended (offsets stream) (rows stream),
      batches ▸ underWay.2⟩

/-- A stored offset is below every row that is committed after the others. -/
theorem HighWaterInvariant.offset_lt {state : ForwarderSystem} (kept : HighWaterInvariant state)
    {stream : Stream} {id : Nat} (positive : 0 < id)
    (beyond : ∀ row ∈ (state.streams stream).rows, row < id) :
    (state.streams stream).offset < id := by
  rcases kept.marked stream with zero | row
  · omega
  · exact beyond _ row

/-- A step of the transactions or of the settings leaves the forwarder alone, and adds what it
commits after the other rows. -/
structure LeftAlone (state next : ForwarderSystem) : Prop where
  /-- The batch under way stays. -/
  phase : next.phase = state.phase
  /-- Nothing is sent. -/
  batches : next.batches = state.batches
  /-- The offsets stay. -/
  offsets : ∀ stream, (next.streams stream).offset = (state.streams stream).offset
  /-- The committed rows stay. -/
  rows : ∀ stream, (state.streams stream).rows <+: (next.streams stream).rows

/-- A step that leaves the forwarder alone keeps the invariant. -/
theorem LeftAlone.highWater {state next : ForwarderSystem} (alone : LeftAlone state next)
    (kept : HighWaterInvariant state) (ordered : RowsInOrder next) : HighWaterInvariant next := by
  refine ⟨ordered,
    alone.phase ▸ batchUnderWay_extended kept.batch alone.offsets alone.rows alone.batches,
    fun stream => ?_, fun stream id committed passed => ?_⟩
  · rw [alone.offsets]
    exact (kept.marked stream).imp id fun row => (alone.rows stream).subset row
  · have positive : 0 < id := ordered.positive stream id committed
    have ascending := ordered.ascending stream
    obtain ⟨added, extended⟩ := alone.rows stream
    rw [← extended] at committed ascending
    rw [alone.offsets] at passed
    rcases List.mem_append.mp committed with before | since
    · simpa only [SentInOrder, alone.batches] using kept.sent stream id before passed
    · have beyond := kept.offset_lt positive fun row committed =>
        (List.pairwise_append.mp ascending).2.2 row committed id since
      omega

/-- Opening a transaction leaves the forwarder alone. -/
theorem leftAlone_open (state : ForwarderSystem) {transactions : List (List (Stream × Nat))}
    {configured : Bool} :
    LeftAlone state { state with transactions := transactions, configured := configured } :=
  ⟨rfl, rfl, fun _ => rfl, fun _ => List.prefix_rfl⟩

/-- Every step of a transaction leaves the forwarder alone. -/
theorem leftAlone_transaction {state next : ForwarderSystem} {label : ForwarderLabel}
    (moving : label = .openTransaction ∨ (∃ index stream, label = .insert index stream) ∨
      (∃ index, label = .commit index) ∨ ∃ index, label = .rollback index)
    (stepped : ForwarderSystem.step state label = some next) : LeftAlone state next := by
  rcases moving with rfl | ⟨index, stream, rfl⟩ | ⟨index, rfl⟩ | ⟨index, rfl⟩
  · cases stepped
    exact leftAlone_open state
  · simp only [ForwarderSystem.step] at stepped
    split at stepped
    · cases stepped
      let advanced : StreamLog :=
        { state.streams stream with nextId := (state.streams stream).nextId + 1 }
      have rows : ∀ other, (Function.update state.streams stream advanced other).rows =
          (state.streams other).rows := update_same StreamLog.rows rfl
      have offsets : ∀ other, (Function.update state.streams stream advanced other).offset =
          (state.streams other).offset := update_same StreamLog.offset rfl
      exact ⟨rfl, rfl, offsets, fun other => ⟨[], (List.append_nil _).trans (rows other).symm⟩⟩
    · cases stepped
  · simp only [ForwarderSystem.step] at stepped
    split at stepped
    · cases stepped
      exact ⟨rfl, rfl, fun _ => rfl, fun _ => List.prefix_append _ _⟩
    · cases stepped
  · simp only [ForwarderSystem.step] at stepped
    split at stepped
    · cases stepped
      exact leftAlone_open state
    · cases stepped

/-- A query of the rows as they are is current. -/
theorem readBefore_query (state : ForwarderSystem) (stream : Stream) :
    ReadBefore (state.streams stream) (state.query stream) := ⟨rfl, List.prefix_rfl⟩

/-- Reading the rows of a batch keeps the invariant. -/
theorem highWater_select {state next : ForwarderSystem} {label : ForwarderLabel}
    (kept : HighWaterInvariant state) (ordered : RowsInOrder next)
    (reading : label = .selectAudit ∨ label = .selectAccounting)
    (stepped : ForwarderSystem.step state label = some next) : HighWaterInvariant next := by
  rcases reading with rfl | rfl
  · simp only [ForwarderSystem.step] at stepped
    split at stepped
    · split at stepped
      · cases stepped
        exact ⟨ordered, readBefore_query state .auditLog, kept.marked, kept.sent⟩
      · cases stepped
    · cases stepped
  · simp only [ForwarderSystem.step] at stepped
    split at stepped
    · rename_i audit reading
      cases stepped
      have underWay : ReadBefore (state.streams .auditLog) audit := by
        have before := kept.batch
        rwa [reading] at before
      refine ⟨ordered, ?_, kept.marked, kept.sent⟩
      dsimp only
      split
      · trivial
      · intro stream
        cases stream with
        | auditLog => exact underWay
        | accountingRecord => exact readBefore_query state .accountingRecord
    · cases stepped

/-- Handing over the lines of a batch, all of them or some, keeps the invariant. -/
theorem highWater_send {state next : ForwarderSystem} {count : Nat}
    (kept : HighWaterInvariant state) (ordered : RowsInOrder next)
    (stepped : ForwarderSystem.step state (.send count) = some next) :
    HighWaterInvariant next := by
  simp only [ForwarderSystem.step] at stepped
  split at stepped
  · rename_i batch sending
    have underWay : ∀ stream, ReadBefore (state.streams stream) (batch.query stream) := by
      have before := kept.batch
      rwa [sending] at before
    split at stepped
    · cases stepped
      refine ⟨ordered, ?_, kept.marked, fun stream id committed passed => ?_⟩
      · dsimp only
        split
        · rename_i whole
          exact ⟨underWay, state.batches, by rw [whole]⟩
        · trivial
      · obtain ⟨attempt, earlier, sent⟩ := kept.sent stream id committed passed
        exact ⟨attempt, List.mem_cons_of_mem _ earlier, sent⟩
    · cases stepped
  · cases stepped

/-- The offset that is stored after a batch: the last row that its query returned. -/
theorem savedOffset_cases (rows : List Nat) (offset : Nat) :
    (rows = [] ∧ rows.getLast?.getD offset = offset) ∨
      ∃ last, rows.getLast? = some last ∧ last ∈ rows ∧ rows.getLast?.getD offset = last := by
  cases final : rows.getLast? with
  | none => exact .inl ⟨List.getLast?_eq_none_iff.mp final, rfl⟩
  | some last => exact .inr ⟨last, rfl, List.mem_of_getLast? final, rfl⟩

/-- The rows up to the stored offset are those up to the offset before and those of the batch. -/
theorem committed_le_saved {log : StreamLog} {selected : Selected}
    (ascending : log.rows.Pairwise (· < ·)) (read : ReadBefore log selected) {id : Nat}
    (committed : id ∈ log.rows) :
    id ≤ selected.rows.getLast?.getD log.offset ↔ id ≤ log.offset ∨ id ∈ selected.rows := by
  rcases savedOffset_cases selected.rows log.offset with
    ⟨empty, same⟩ | ⟨last, final, listed, moved⟩
  · rw [same, empty]
    simp only [List.not_mem_nil, or_false]
  · rw [moved]
    constructor
    · intro passed
      by_cases before : id ≤ log.offset
      · exact .inl before
      · exact .inr (read.mem_of_le ascending committed (Nat.not_le.mp before) listed passed)
    · rintro (before | returned)
      · exact Nat.le_of_lt (Nat.lt_of_le_of_lt before (read.above listed).2)
      · exact le_getLast (read.rows_ascending ascending) final returned

/-- Storing the offsets of a batch keeps the invariant. -/
theorem highWater_save {state next : ForwarderSystem} (kept : HighWaterInvariant state)
    (ordered : RowsInOrder next)
    (stepped : ForwarderSystem.step state .save = some next) : HighWaterInvariant next := by
  simp only [ForwarderSystem.step] at stepped
  split at stepped
  · rename_i batch saving
    cases stepped
    have underWay : BatchUnderWay state (.saving batch) := saving ▸ kept.batch
    obtain ⟨read, earlier, latest⟩ := underWay
    refine ⟨ordered, trivial, fun stream => ?_, fun stream id committed passed => ?_⟩
    · dsimp only
      rcases savedOffset_cases (batch.query stream).rows (state.streams stream).offset with
        ⟨empty, same⟩ | ⟨last, final, listed, moved⟩
      · rw [same]
        exact kept.marked stream
      · rw [moved]
        exact .inr ((read stream).above listed).1
    · have saved := committed_le_saved (kept.rows.ascending stream) (read stream) committed
      rcases saved.mp passed with before | returned
      · exact kept.sent stream id committed before
      · refine ⟨⟨batch, batch.lines.length⟩, ?_, returned,
          (read stream).rows_ascending (kept.rows.ascending stream), List.take_length⟩
        dsimp only
        rw [latest]
        exact List.mem_cons_self
  · cases stepped

/-- Every step whose commits are in order keeps the invariant. -/
theorem highWater_step {state next : ForwarderSystem} {label : ForwarderLabel}
    (kept : HighWaterInvariant state) (guarded : InIdOrder state label)
    (stepped : ForwarderSystem.step state label = some next) : HighWaterInvariant next := by
  have ordered : RowsInOrder next := rowsInOrder_step kept.rows guarded stepped
  cases label with
  | openTransaction => exact (leftAlone_transaction (.inl rfl) stepped).highWater kept ordered
  | insert index stream =>
    exact (leftAlone_transaction (.inr (.inl ⟨index, stream, rfl⟩)) stepped).highWater kept ordered
  | commit index =>
    exact (leftAlone_transaction (.inr (.inr (.inl ⟨index, rfl⟩))) stepped).highWater kept ordered
  | rollback index =>
    exact (leftAlone_transaction (.inr (.inr (.inr ⟨index, rfl⟩))) stepped).highWater kept ordered
  | configure enabled =>
    cases stepped
    exact (leftAlone_open state).highWater kept ordered
  | selectAudit => exact highWater_select kept ordered (.inl rfl) stepped
  | selectAccounting => exact highWater_select kept ordered (.inr rfl) stepped
  | send count => exact highWater_send kept ordered stepped
  | save => exact highWater_save kept ordered stepped
  | restart =>
    cases stepped
    exact ⟨ordered, trivial, kept.marked, kept.sent⟩

/-- What every run keeps in which nothing fails: each row is sent once, and no later than its
offset is stored. -/
structure SentOnce (state : ForwarderSystem) : Prop where
  /-- No line is sent twice. -/
  distinct : state.sent.Nodup
  /-- The lines sent are those of the rows up to the offsets and of the batch whose offsets are
  still to be stored. -/
  exactly : ∀ stream id, (stream, id) ∈ state.sent ↔ id ∈ (state.streams stream).rows ∧
    (id ≤ (state.streams stream).offset ∨ id ∈ unsaved stream state.phase)

/-- The lines of a batch are those of its rows. -/
theorem mem_lines_iff {batch : Batch} {stream : Stream} {id : Nat} :
    (stream, id) ∈ batch.lines ↔ id ∈ (batch.query stream).rows := by
  cases stream <;> simp [Batch.lines, Batch.query]

/-- A batch has one line for each of its rows. -/
theorem lines_nodup {batch : Batch}
    (ascending : ∀ stream, (batch.query stream).rows.Pairwise (· < ·)) : batch.lines.Nodup := by
  have one : ∀ stream : Stream,
      ((batch.query stream).rows.map (stream, ·)).Nodup := by
    intro stream
    refine List.Nodup.map (fun left right same => (Prod.mk.inj same).2) ?_
    exact (ascending stream).imp Nat.ne_of_lt
  refine List.nodup_append.mpr ⟨one .auditLog, one .accountingRecord, ?_⟩
  intro first audited second accounted same
  obtain ⟨_, _, rfl⟩ := List.mem_map.mp audited
  obtain ⟨_, _, rfl⟩ := List.mem_map.mp accounted
  cases same

/-- What is still to be stored has been committed. -/
theorem unsaved_committed {state : ForwarderSystem} {phase : ForwarderPhase}
    (underWay : BatchUnderWay state phase) {stream : Stream} {id : Nat}
    (listed : id ∈ unsaved stream phase) : id ∈ (state.streams stream).rows := by
  cases phase with
  | idle | auditRead | sending => exact absurd listed List.not_mem_nil
  | saving batch => exact ((underWay.1 stream).above listed).1

/-- A step that leaves the forwarder alone keeps every row sent once. -/
theorem LeftAlone.sentOnce {state next : ForwarderSystem} (alone : LeftAlone state next)
    (kept : HighWaterInvariant state) (ordered : RowsInOrder next) (once : SentOnce state) :
    SentOnce next := by
  have same : next.sent = state.sent := by simp only [ForwarderSystem.sent, alone.batches]
  refine ⟨same ▸ once.distinct, fun stream id => ?_⟩
  rw [same, once.exactly, alone.offsets, alone.phase]
  refine and_congr_left fun passed => ?_
  constructor
  · exact fun committed => (alone.rows stream).subset committed
  · intro committed
    have positive : 0 < id := ordered.positive stream id committed
    have ascending := ordered.ascending stream
    obtain ⟨added, extended⟩ := alone.rows stream
    rw [← extended] at committed ascending
    rcases List.mem_append.mp committed with before | since
    · exact before
    · have beyond : ∀ row ∈ (state.streams stream).rows, row < id := fun row committed =>
        (List.pairwise_append.mp ascending).2.2 row committed id since
      rcases passed with low | handed
      · have above := kept.offset_lt positive beyond
        omega
      · exact unsaved_committed kept.batch handed

/-- A step that sends nothing and leaves nothing to be stored keeps every row sent once. -/
theorem sentOnce_of_same {state next : ForwarderSystem} (once : SentOnce state)
    (streams : next.streams = state.streams) (batches : next.batches = state.batches)
    (unsavedBefore : ∀ stream, unsaved stream state.phase = [])
    (unsavedAfter : ∀ stream, unsaved stream next.phase = []) : SentOnce next := by
  have same : next.sent = state.sent := by simp only [ForwarderSystem.sent, batches]
  refine ⟨same ▸ once.distinct, fun stream id => ?_⟩
  rw [same, once.exactly, streams, unsavedBefore, unsavedAfter]

/-- Handing over a whole batch sends the rows that follow the offsets. -/
theorem sentOnce_send {state next : ForwarderSystem} {count : Nat}
    (kept : HighWaterInvariant state) (once : SentOnce state)
    (nothingFails : NothingFails state (.send count))
    (stepped : ForwarderSystem.step state (.send count) = some next) : SentOnce next := by
  simp only [ForwarderSystem.step] at stepped
  split at stepped
  · rename_i batch sending
    have whole : count = batch.lines.length := nothingFails batch sending
    subst whole
    rw [if_pos (Nat.le_refl _), if_pos rfl] at stepped
    cases stepped
    have read : ∀ stream, ReadBefore (state.streams stream) (batch.query stream) := by
      have before := kept.batch
      rwa [sending] at before
    have sent : SentBatch.sent ⟨batch, batch.lines.length⟩ = batch.lines := List.take_length
    have exactly : ∀ stream id, (stream, id) ∈ state.sent ↔ id ∈ (state.streams stream).rows ∧
        id ≤ (state.streams stream).offset := by
      intro stream id
      rw [once.exactly, sending]
      simp only [unsaved, List.not_mem_nil, or_false]
    refine ⟨?_, fun stream id => ?_⟩
    · rw [ForwarderSystem.sent, List.flatMap_cons, sent]
      refine List.nodup_append.mpr ⟨lines_nodup fun stream =>
        (read stream).rows_ascending (kept.rows.ascending stream), once.distinct, ?_⟩
      rintro ⟨stream, id⟩ listed other earlier rfl
      have above := (read stream).above (mem_lines_iff.mp listed)
      have below := (exactly stream id).mp earlier
      omega
    · rw [ForwarderSystem.sent, List.flatMap_cons, sent, List.mem_append, mem_lines_iff]
      change _ ∨ (stream, id) ∈ state.sent ↔ _
      rw [exactly]
      constructor
      · rintro (listed | ⟨committed, passed⟩)
        · exact ⟨((read stream).above listed).1, .inr listed⟩
        · exact ⟨committed, .inl passed⟩
      · rintro ⟨committed, passed | listed⟩
        · exact .inr ⟨committed, passed⟩
        · exact .inl listed
  · cases stepped

/-- Storing the offsets makes them stand for the batch. -/
theorem sentOnce_save {state next : ForwarderSystem} (kept : HighWaterInvariant state)
    (once : SentOnce state) (stepped : ForwarderSystem.step state .save = some next) :
    SentOnce next := by
  simp only [ForwarderSystem.step] at stepped
  split at stepped
  · rename_i batch saving
    cases stepped
    have underWay : BatchUnderWay state (.saving batch) := saving ▸ kept.batch
    refine ⟨once.distinct, fun stream id => ?_⟩
    have before := once.exactly stream id
    rw [saving] at before
    change (stream, id) ∈ state.sent ↔ _
    rw [before]
    simp only [unsaved, List.not_mem_nil, or_false]
    refine and_congr_right fun committed => ?_
    exact (committed_le_saved (kept.rows.ascending stream) (underWay.1 stream) committed).symm
  · cases stepped

/-- Every step in order that does not fail keeps every row sent once. -/
theorem sentOnce_step {state next : ForwarderSystem} {label : ForwarderLabel}
    (kept : HighWaterInvariant state) (once : SentOnce state) (guarded : InIdOrder state label)
    (nothingFails : NothingFails state label)
    (stepped : ForwarderSystem.step state label = some next) : SentOnce next := by
  have ordered : RowsInOrder next := rowsInOrder_step kept.rows guarded stepped
  cases label with
  | openTransaction =>
    exact (leftAlone_transaction (.inl rfl) stepped).sentOnce kept ordered once
  | insert index stream =>
    have alone := leftAlone_transaction (.inr (.inl ⟨index, stream, rfl⟩)) stepped
    exact alone.sentOnce kept ordered once
  | commit index =>
    have alone := leftAlone_transaction (.inr (.inr (.inl ⟨index, rfl⟩))) stepped
    exact alone.sentOnce kept ordered once
  | rollback index =>
    have alone := leftAlone_transaction (.inr (.inr (.inr ⟨index, rfl⟩))) stepped
    exact alone.sentOnce kept ordered once
  | configure enabled =>
    cases stepped
    exact (leftAlone_open state).sentOnce kept ordered once
  | selectAudit =>
    simp only [ForwarderSystem.step] at stepped
    split at stepped
    · rename_i idle
      split at stepped
      · cases stepped
        exact sentOnce_of_same once rfl rfl (fun _ => by rw [idle]; rfl) fun _ => rfl
      · cases stepped
    · cases stepped
  | selectAccounting =>
    simp only [ForwarderSystem.step] at stepped
    split at stepped
    · rename_i audit reading
      cases stepped
      refine sentOnce_of_same once rfl rfl (fun _ => by rw [reading]; rfl) fun _ => ?_
      dsimp only
      split <;> rfl
    · cases stepped
  | send count => exact sentOnce_send kept once nothingFails stepped
  | save => exact sentOnce_save kept once stepped
  | restart => exact nothingFails.elim

/-- A new installation, with forwarding switched on or off. -/
def newInstallation (configured : Bool) : ForwarderSystem :=
  ⟨fun _ => ⟨1, [], 0⟩, [], configured, .idle, []⟩

/-- A new installation meets the invariant. -/
theorem newInstallation_highWater (configured : Bool) :
    HighWaterInvariant (newInstallation configured) where
  rows := ⟨fun _ => Nat.one_pos, fun _ _ listed => absurd listed List.not_mem_nil,
    fun _ _ listed => absurd listed List.not_mem_nil,
    fun _ _ listed => absurd listed List.not_mem_nil, fun _ => List.Pairwise.nil⟩
  batch := trivial
  marked := fun _ => .inl rfl
  sent := fun _ _ listed => absurd listed List.not_mem_nil

/-- Only storing the offsets of the latest batch moves an offset, after all its lines were
handed over. -/
theorem offsets_moved {state next : ForwarderSystem} {label : ForwarderLabel}
    (kept : HighWaterInvariant state)
    (stepped : ForwarderSystem.step state label = some next) :
    (∀ stream, (next.streams stream).offset = (state.streams stream).offset) ∨
      label = .save ∧ ∃ batch attempts, state.phase = .saving batch ∧
        state.batches = ⟨batch, batch.lines.length⟩ :: attempts := by
  cases label with
  | openTransaction => exact .inl (leftAlone_transaction (.inl rfl) stepped).offsets
  | insert index stream =>
    exact .inl (leftAlone_transaction (.inr (.inl ⟨index, stream, rfl⟩)) stepped).offsets
  | commit index =>
    exact .inl (leftAlone_transaction (.inr (.inr (.inl ⟨index, rfl⟩))) stepped).offsets
  | rollback index =>
    exact .inl (leftAlone_transaction (.inr (.inr (.inr ⟨index, rfl⟩))) stepped).offsets
  | configure | restart =>
    cases stepped
    exact .inl fun _ => rfl
  | selectAudit | selectAccounting | send =>
    simp only [ForwarderSystem.step] at stepped
    repeat' split at stepped
    all_goals cases stepped
    all_goals exact .inl fun _ => rfl
  | save =>
    refine .inr ⟨rfl, ?_⟩
    simp only [ForwarderSystem.step] at stepped
    split at stepped
    · rename_i batch saving
      have underWay : BatchUnderWay state (.saving batch) := saving ▸ kept.batch
      obtain ⟨attempts, latest⟩ := underWay.2
      exact ⟨batch, attempts, saving, latest⟩
    · cases stepped

/-- No step decreases an offset. -/
theorem offset_le_step {state next : ForwarderSystem} {label : ForwarderLabel}
    (kept : HighWaterInvariant state)
    (stepped : ForwarderSystem.step state label = some next) (stream : Stream) :
    (state.streams stream).offset ≤ (next.streams stream).offset := by
  rcases offsets_moved kept stepped with same | ⟨rfl, batch, attempts, saving, latest⟩
  · exact Nat.le_of_eq (same stream).symm
  · have underWay : BatchUnderWay state (.saving batch) := saving ▸ kept.batch
    simp only [ForwarderSystem.step, saving] at stepped
    cases stepped
    dsimp only
    rcases savedOffset_cases (batch.query stream).rows (state.streams stream).offset with
      ⟨empty, same⟩ | ⟨last, final, listed, moved⟩
    · exact Nat.le_of_eq same.symm
    · rw [moved]
      exact Nat.le_of_lt ((underWay.1 stream).above listed).2

/-- Every run in order keeps the invariant and decreases no offset. -/
theorem highWater_run {start final : ForwarderSystem} {labels : List ForwarderLabel}
    (kept : HighWaterInvariant start)
    (ordered : ForwarderSystem.step.Admits InIdOrder start labels)
    (ran : ForwarderSystem.step.run start labels = some final) :
    HighWaterInvariant final ∧
      ∀ stream, (start.streams stream).offset ≤ (final.streams stream).offset := by
  refine Step.run_preserves
    (fun state => HighWaterInvariant state ∧
      ∀ stream, (start.streams stream).offset ≤ (state.streams stream).offset)
    (fun state label next before guarded stepped => ?_) ⟨kept, fun _ => Nat.le_refl _⟩ ordered ran
  exact ⟨highWater_step before.1 guarded stepped, fun stream =>
    Nat.le_trans (before.2 stream) (offset_le_step before.1 stepped stream)⟩

/-- Every run in order in which nothing fails sends every row once. -/
theorem sentOnce_run {start final : ForwarderSystem} {labels : List ForwarderLabel}
    (kept : HighWaterInvariant start) (once : SentOnce start)
    (ordered : ForwarderSystem.step.Admits InIdOrder start labels)
    (nothingFails : ForwarderSystem.step.Admits NothingFails start labels)
    (ran : ForwarderSystem.step.run start labels = some final) : SentOnce final := by
  have both : HighWaterInvariant final ∧ SentOnce final :=
    Step.run_preserves (fun state => HighWaterInvariant state ∧ SentOnce state)
      (fun state label next before guarded stepped =>
        ⟨highWater_step before.1 guarded.1 stepped,
          sentOnce_step before.1 before.2 guarded.1 guarded.2 stepped⟩)
      ⟨kept, once⟩ (ordered.both nothingFails) ran
  exact both.2

/-- In every run from a new installation in which rows become visible in the order of their
ids, whatever fails, stops and is switched on or off, the offsets never decrease, every
committed row up to an offset was sent in order in a batch handed over whole, and only storing
the offsets of such a batch moves them. When nothing fails or stops no line is sent twice, and
the lines sent are those of the rows up to the offsets, and of the batch whose offsets are being
stored. -/
theorem offsets_high_water {configured : Bool} {first rest : List ForwarderLabel}
    {middle final : ForwarderSystem}
    (reached : ForwarderSystem.step.run (newInstallation configured) first = some middle)
    (ran : ForwarderSystem.step.run middle rest = some final)
    (ordered : ForwarderSystem.step.Admits InIdOrder (newInstallation configured)
      (first ++ rest)) :
    (∀ stream, (middle.streams stream).offset ≤ (final.streams stream).offset) ∧
    HighWater final ∧
    (∀ label next, ForwarderSystem.step final label = some next →
      (∀ stream, (next.streams stream).offset = (final.streams stream).offset) ∨
        label = .save ∧ ∃ batch attempts, final.phase = .saving batch ∧
          final.batches = ⟨batch, batch.lines.length⟩ :: attempts) ∧
    (ForwarderSystem.step.Admits NothingFails (newInstallation configured) (first ++ rest) →
      final.sent.Nodup ∧ ∀ stream id, (stream, id) ∈ final.sent ↔
        id ∈ (final.streams stream).rows ∧
          (id ≤ (final.streams stream).offset ∨ id ∈ unsaved stream final.phase)) := by
  have start := newInstallation_highWater configured
  have parts := ordered.append reached
  have before := highWater_run start parts.1 reached
  have after := highWater_run before.1 parts.2 ran
  have whole : ForwarderSystem.step.run (newInstallation configured) (first ++ rest) = some final :=
    Step.run_append.mpr ⟨middle, reached, ran⟩
  refine ⟨after.2, after.1.sent, fun label next stepped => offsets_moved after.1 stepped,
    fun nothingFails => ?_⟩
  have empty : SentOnce (newInstallation configured) :=
    ⟨List.nodup_nil, fun stream id =>
      ⟨fun sent => absurd sent List.not_mem_nil, fun passed => absurd passed.1 List.not_mem_nil⟩⟩
  have once := sentOnce_run start empty ordered nothingFails whole
  exact ⟨once.distinct, once.exactly⟩

/-- Two rows that are committed in the order of their ids are sent once, and the offset passes
both. -/
theorem offsets_high_water_ordered : HighWater afterOrderedCommits ∧
    afterOrderedCommits.sent.Nodup ∧ (afterOrderedCommits.streams .auditLog).offset = 2 := by
  have whole := @offsets_high_water true orderedCommits [] afterOrderedCommits afterOrderedCommits
    rfl rfl
    (.cons trivial rfl (.cons trivial rfl (.cons trivial rfl (.cons trivial rfl
      (.cons (fun _ _ stream _ _ _ committed => by cases stream <;> exact nomatch committed) rfl
        (.cons
          (fun _ opened stream id inserted row committed => by
            cases opened
            obtain ⟨rfl, rfl⟩ := Prod.mk.inj (List.mem_singleton.mp inserted)
            obtain rfl := List.mem_singleton.mp committed
            decide)
          rfl
          (.cons trivial rfl (.cons trivial rfl (.cons trivial rfl (.cons trivial rfl
            trivial))))))))))
  have sent := whole.2.2.2
    (.cons trivial rfl (.cons trivial rfl (.cons trivial rfl (.cons trivial rfl
      (.cons trivial rfl (.cons trivial rfl (.cons trivial rfl (.cons trivial rfl
        (.cons (fun _ sending => by cases sending; rfl) rfl (.cons trivial rfl trivial))))))))))
  exact ⟨whole.2.1, sent.1, rfl⟩

end TacacsWeb.Verif
