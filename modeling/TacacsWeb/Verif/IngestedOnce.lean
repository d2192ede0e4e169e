import TacacsWeb.Model.IngestorRuns
import TacacsWeb.Verif.Ingestion

/-!
# Ingestion through crashes

The saved offset lags behind the reader over lines without a record, and what the reader holds
is lost with every crash. The committed rows are still the records of the lines up to the
offset, since a row and the offset after its line are committed together and every reading
starts over from that offset.
-/

namespace TacacsWeb.Verif

open TacacsWeb.Library TacacsWeb.Model

variable {Instant : Type}

/-- The daemon appends whole lines. -/
def WholeAppend : TailLabel → Prop
  | .append bytes => ∃ lines, (∀ line ∈ lines, PlainLine line) ∧ bytes = logBytes lines
  | _ => True

/-- The lines that end at or before a position of the log. -/
def endingBy : Nat → List (List Char) → List (List Char)
  | _, [] => []
  | position, line :: lines =>
    let size := (Utf8.encode line).length + 1
    if size ≤ position then line :: endingBy (position - size) lines else []

/-- The records of the lines that have one, in order. -/
def parsedRecords (times : TimeReader Instant) (lines : List (List Char)) :
    List (ParsedRecord Instant) :=
  lines.filterMap (parseRecord times)

/-- Each row is that of one record, with the device that was found for it. -/
def RowsOf (records : List (ParsedRecord Instant)) (rows : List (AccountingRecord Instant)) :
    Prop :=
  List.Forall₂ (fun rec row => ∃ devices, row = persistOne devices rec) records rows

/-- Between the offset and a position there are these records and no others. -/
def RecordsAhead (times : TimeReader Instant) (lines : List (List Char)) (offset position : Nat)
    (records : List (ParsedRecord Instant)) : Prop :=
  offset ≤ position ∧
    parsedRecords times (endingBy position lines) =
      parsedRecords times (endingBy offset lines) ++ records

/-- The ingestor is past no record that is not committed, but the one it holds. -/
def NothingSkipped (times : TimeReader Instant) (lines : List (List Char)) (offset : Nat) :
    TailPhase Instant → Prop
  | .waiting => True
  | .resetting => False
  | .loaded position => position = offset
  | .reading position => RecordsAhead times lines offset position []
  | .parsed rec position => RecordsAhead times lines offset position [rec]
  | .staged row position => ∃ rec devices, row = persistOne devices rec ∧
      RecordsAhead times lines offset position [rec]

/-- The committed rows are the records of the lines up to the offset, which is the end of one. -/
structure IngestedOnce (times : TimeReader Instant) (lines : List (List Char))
    (state : TailSystem Instant) : Prop where
  /-- The offset is the end of a line, or the start of the log. -/
  lineEnd : (logBytes (endingBy state.offset lines)).length = state.offset
  /-- The rows are the records of the lines up to it. -/
  rows : RowsOf (parsedRecords times (endingBy state.offset lines)) state.rows
  /-- No record after it is passed over. -/
  unskipped : NothingSkipped times lines state.offset state.phase

/-! ## Lines and their positions -/

/-- The number of bytes of one more line. -/
theorem length_logBytes_cons (line : List Char) (lines : List (List Char)) :
    (logBytes (line :: lines)).length =
      (Utf8.encode line).length + 1 + (logBytes lines).length := by
  rw [logBytes_cons, List.length_append, List.length_cons]
  omega

/-- The bytes of the lines of two lists. -/
theorem logBytes_append (lines more : List (List Char)) :
    logBytes (lines ++ more) = logBytes lines ++ logBytes more := List.flatMap_append

/-- The bytes after those of the first lines are those of the others. -/
theorem drop_logBytes (lines more : List (List Char)) :
    (logBytes (lines ++ more)).drop (logBytes lines).length = logBytes more := by
  rw [logBytes_append, List.drop_left]

/-- Reading from the start of a line takes it with its end. -/
theorem takeLine_logBytes {line : List Char} (plain : PlainLine line) (lines : List (List Char)) :
    takeLine (logBytes (line :: lines)) = (Utf8.encode line ++ [10], logBytes lines) := by
  obtain ⟨noFeed, noReturn⟩ := encode_plain plain
  rw [logBytes_cons, takeLine_terminated _ noFeed noReturn]

/-- The bytes of a log tell its lines. -/
theorem logBytes_injective {lines others : List (List Char)}
    (plain : ∀ line ∈ lines, PlainLine line) (plainOthers : ∀ line ∈ others, PlainLine line)
    (same : logBytes lines = logBytes others) : lines = others := by
  induction lines generalizing others with
  | nil =>
    cases others with
    | nil => rfl
    | cons other others => simp [logBytes] at same
  | cons line lines ih =>
    cases others with
    | nil => simp [logBytes] at same
    | cons other others =>
      rw [List.forall_mem_cons] at plain plainOthers
      have taken := congrArg takeLine same
      rw [takeLine_logBytes plain.1, takeLine_logBytes plainOthers.1, Prod.mk.injEq] at taken
      have lineSame : line = other := by
        rw [← lineText_encode plain.1, List.append_cancel_right taken.1,
          lineText_encode plainOthers.1]
      rw [lineSame, ih plain.2 plainOthers.2 taken.2]

/-- At the end of some lines of the log, exactly these end by then. -/
theorem endingBy_logBytes (lines more : List (List Char)) :
    endingBy (logBytes lines).length (lines ++ more) = lines := by
  induction lines with
  | nil =>
    cases more with
    | nil => rfl
    | cons line more => rw [List.nil_append, endingBy, if_neg (by simp [logBytes])]
  | cons line lines ih =>
    rw [List.cons_append, endingBy, length_logBytes_cons, if_pos (Nat.le_add_right _ _),
      Nat.add_sub_cancel_left, ih]

/-- The records of the lines of two lists. -/
theorem parsedRecords_append (times : TimeReader Instant) (lines more : List (List Char)) :
    parsedRecords times (lines ++ more) = parsedRecords times lines ++ parsedRecords times more :=
  List.filterMap_append

/-! ## What every step keeps -/

/-- From the end of the committed lines the ingestor has read up to a position, and these are
the records of what it has read. -/
def ReadTo (times : TimeReader Instant) (done rest : List (List Char)) (position : Nat)
    (records : List (ParsedRecord Instant)) : Prop :=
  ∃ read ahead, rest = read ++ ahead ∧ parsedRecords times read = records ∧
    position = (logBytes (done ++ read)).length

/-- What the ingestor holds comes from the lines after the committed ones. -/
def HeldFrom (times : TimeReader Instant) (done rest : List (List Char)) :
    TailPhase Instant → Prop
  | .waiting => True
  | .resetting => False
  | .loaded position => position = (logBytes done).length
  | .reading position => ReadTo times done rest position []
  | .parsed rec position => ReadTo times done rest position [rec]
  | .staged row position => ∃ rec devices, row = persistOne devices rec ∧
      ReadTo times done rest position [rec]

/-- The log is some lines that are committed and others that are not. -/
structure Committed (times : TimeReader Instant) (done rest : List (List Char))
    (state : TailSystem Instant) : Prop where
  /-- The lines of the log are plain. -/
  plain : ∀ line ∈ done ++ rest, PlainLine line
  /-- The log holds the lines. -/
  file : state.file = logBytes (done ++ rest)
  /-- The offset is the end of the committed lines. -/
  offset : state.offset = (logBytes done).length
  /-- The rows are their records. -/
  rows : RowsOf (parsedRecords times done) state.rows
  /-- What the ingestor holds comes from the others. -/
  held : HeldFrom times done rest state.phase

variable {times : TimeReader Instant} {done rest : List (List Char)}
  {state next : TailSystem Instant}

/-- Lines that are appended later are read later. -/
theorem ReadTo.append {position : Nat} {records : List (ParsedRecord Instant)}
    (reached : ReadTo times done rest position records) (more : List (List Char)) :
    ReadTo times done (rest ++ more) position records := by
  obtain ⟨read, ahead, rfl, parsed, place⟩ := reached
  exact ⟨read, ahead ++ more, List.append_assoc _ _ _, parsed, place⟩

/-- What the ingestor holds is not touched by an append. -/
theorem HeldFrom.append {phase : TailPhase Instant} (held : HeldFrom times done rest phase)
    (more : List (List Char)) : HeldFrom times done (rest ++ more) phase := by
  cases phase with
  | waiting => trivial
  | resetting => exact held
  | loaded position => exact held
  | reading position => exact ReadTo.append held more
  | parsed rec position => exact ReadTo.append held more
  | staged row position =>
    obtain ⟨rec, devices, made, reached⟩ := held
    exact ⟨rec, devices, made, reached.append more⟩

/-- Lines are appended to those that are not committed. -/
theorem Committed.append (committed : Committed times done rest state) {more : List (List Char)}
    (plain : ∀ line ∈ more, PlainLine line) :
    Committed times done (rest ++ more) { state with file := state.file ++ logBytes more } where
  plain := by
    rw [← List.append_assoc, List.forall_mem_append]
    exact ⟨committed.plain, plain⟩
  file := by rw [← List.append_assoc, logBytes_append, ← committed.file]
  offset := committed.offset
  rows := committed.rows
  held := committed.held.append more

/-- A change of phase alone keeps what is committed. -/
theorem Committed.withPhase (committed : Committed times done rest state)
    {phase : TailPhase Instant} (held : HeldFrom times done rest phase) :
    Committed times done rest { state with phase := phase } :=
  ⟨committed.plain, committed.file, committed.offset, committed.rows, held⟩

/-- The offset is within the log. -/
theorem Committed.offset_le (committed : Committed times done rest state) :
    state.offset ≤ state.file.length := by
  rw [committed.offset, committed.file, logBytes_append, List.length_append]
  exact Nat.le_add_right _ _

/-- A reading that takes a line moves past it and holds its record, if it has one. -/
theorem lineRead_held {position : Nat} {line : List Char} {read : List (List Char)}
    (ahead : List (List Char)) (plain : PlainLine line) (nothing : parsedRecords times read = [])
    (place : position = (logBytes (done ++ read)).length) :
    HeldFrom times done (read ++ line :: ahead)
      (TailSystem.lineRead times position (Utf8.encode line ++ [10])) := by
  have past : position + (Utf8.encode line ++ [10]).length =
      (logBytes (done ++ (read ++ [line]))).length := by
    rw [place, ← List.append_assoc, logBytes_append (done ++ read), List.length_append,
      List.length_append, length_logBytes_cons]
    rfl
  have split : read ++ line :: ahead = (read ++ [line]) ++ ahead := List.append_cons _ _ _
  have records : parsedRecords times (read ++ [line]) = (parseRecord times line).toList := by
    rw [parsedRecords_append, nothing, List.nil_append, parsedRecords]
    cases parsed : parseRecord times line <;> simp [parsed]
  unfold TailSystem.lineRead
  rw [lineText_terminated plain, parseRecord_newline]
  cases parsed : parseRecord times line with
  | none => exact ⟨read ++ [line], ahead, split, by rw [records, parsed]; rfl, past⟩
  | some rec => exact ⟨read ++ [line], ahead, split, by rw [records, parsed]; rfl, past⟩

/-- A reading takes the next line that is not committed, if there is one. -/
theorem readLine_held {file : List UInt8} {position : Nat} (log : file = logBytes (done ++ rest))
    (plain : ∀ line ∈ done ++ rest, PlainLine line) (reached : ReadTo times done rest position []) :
    HeldFrom times done rest (TailSystem.readLine times file position) := by
  obtain ⟨read, ahead, rfl, nothing, place⟩ := reached
  have unread : file.drop position = logBytes ahead := by
    rw [log, place, ← List.append_assoc, drop_logBytes]
  unfold TailSystem.readLine
  rw [unread]
  cases ahead with
  | nil =>
    have atEnd : ¬ file.length < position := by
      rw [log, place, List.append_nil]
      exact Nat.lt_irrefl _
    rw [show takeLine (logBytes []) = ([], []) from rfl]
    simp only [if_neg atEnd]
    exact ⟨read, [], rfl, nothing, place⟩
  | cons line ahead =>
    have plainLine : PlainLine line := plain line (by simp)
    rw [takeLine_logBytes plainLine]
    have some_bytes : ∃ byte bytes, Utf8.encode line ++ [10] = byte :: bytes :=
      List.exists_cons_of_ne_nil (by simp)
    obtain ⟨byte, bytes, shape⟩ := some_bytes
    have held := lineRead_held ahead plainLine nothing place
    rw [shape] at held ⊢
    exact held

/-- A session holds the row of the record that was read, or nothing if the row does not fit. -/
theorem persist_held {rec : ParsedRecord Instant} {position : Nat} (devices : List Device)
    (reached : ReadTo times done rest position [rec]) :
    HeldFrom times done rest (TailSystem.persist times devices rec position) := by
  unfold TailSystem.persist
  by_cases fits : (persistOne devices rec).fits times = true
  · rw [if_pos fits]
    exact ⟨rec, devices, rfl, reached⟩
  · rw [if_neg fits]
    trivial

/-- A commit of the row that is held commits the lines up to its own. -/
theorem Committed.commit {row : AccountingRecord Instant} {position : Nat}
    (committed : Committed times done rest state)
    (held : HeldFrom times done rest (.staged row position)) (outcome : CommitOutcome) :
    ∃ doneThen restThen, Committed times doneThen restThen
      (state.commit [row] position (.reading position) outcome) := by
  obtain ⟨rec, devices, made, read, ahead, rfl, parsed, place⟩ := held
  have plain : ∀ line ∈ done ++ read ++ ahead, PlainLine line := by
    rw [List.append_assoc]
    exact committed.plain
  have file : state.file = logBytes (done ++ read ++ ahead) := by
    rw [List.append_assoc]
    exact committed.file
  have rows : RowsOf (parsedRecords times (done ++ read)) (state.rows ++ [row]) := by
    rw [parsedRecords_append, parsed]
    exact List.rel_append committed.rows (.cons ⟨devices, made⟩ .nil)
  cases outcome with
  | answered =>
    refine ⟨done ++ read, ahead, plain, file, place, rows, [], ahead, rfl, rfl, ?_⟩
    rw [List.append_nil]
    exact place
  | unanswered => exact ⟨done ++ read, ahead, plain, file, place, rows, trivial⟩
  | refused => exact ⟨done, read ++ ahead, committed.withPhase trivial⟩

/-- Every step keeps the rows those of the committed lines. -/
theorem committed_step {label : TailLabel} (committed : Committed times done rest state)
    (whole : WholeAppend label) (stepped : TailSystem.step times state label = some next) :
    ∃ doneThen restThen, Committed times doneThen restThen next := by
  have held := committed.held
  cases label with
  | append bytes =>
    obtain ⟨more, plain, rfl⟩ := whole
    obtain rfl := Option.some.inj stepped
    exact ⟨done, rest ++ more, committed.append plain⟩
  | interrupt =>
    obtain rfl := Option.some.inj stepped
    exact ⟨done, rest, committed.withPhase trivial⟩
  | load =>
    cases phase : state.phase with
    | waiting =>
      simp only [TailSystem.step, phase, if_neg (Nat.not_lt.mpr committed.offset_le)] at stepped
      obtain rfl := Option.some.inj stepped
      exact ⟨done, rest, committed.withPhase committed.offset⟩
    | _ => simp [TailSystem.step, phase] at stepped
  | openFile =>
    cases phase : state.phase with
    | loaded offset =>
      simp only [TailSystem.step, phase] at stepped
      obtain rfl := Option.some.inj stepped
      rw [phase] at held
      refine ⟨done, rest, committed.withPhase ⟨[], rest, rfl, rfl, ?_⟩⟩
      rw [List.append_nil]
      exact held
    | _ => simp [TailSystem.step, phase] at stepped
  | readLine =>
    cases phase : state.phase with
    | reading position =>
      simp only [TailSystem.step, phase] at stepped
      obtain rfl := Option.some.inj stepped
      rw [phase] at held
      exact ⟨done, rest, committed.withPhase (readLine_held committed.file committed.plain held)⟩
    | _ => simp [TailSystem.step, phase] at stepped
  | persist devices =>
    cases phase : state.phase with
    | parsed rec position =>
      simp only [TailSystem.step, phase] at stepped
      obtain rfl := Option.some.inj stepped
      rw [phase] at held
      exact ⟨done, rest, committed.withPhase (persist_held devices held)⟩
    | _ => simp [TailSystem.step, phase] at stepped
  | commit outcome =>
    cases phase : state.phase with
    | resetting =>
      rw [phase] at held
      exact held.elim
    | staged row position =>
      simp only [TailSystem.step, phase] at stepped
      obtain rfl := Option.some.inj stepped
      rw [phase] at held
      exact committed.commit held outcome
    | _ => simp [TailSystem.step, phase] at stepped

/-! ## Whole runs -/

/-- What has been read since the offset is what lies between the two positions. -/
theorem ReadTo.recordsAhead {position : Nat} {records : List (ParsedRecord Instant)}
    (reached : ReadTo times done rest position records) :
    RecordsAhead times (done ++ rest) (logBytes done).length position records := by
  obtain ⟨read, ahead, rfl, parsed, rfl⟩ := reached
  have readBy : endingBy (logBytes (done ++ read)).length (done ++ (read ++ ahead)) =
      done ++ read := by
    rw [← List.append_assoc, endingBy_logBytes]
  refine ⟨?_, ?_⟩
  · rw [logBytes_append, List.length_append]
    exact Nat.le_add_right _ _
  · rw [readBy, endingBy_logBytes, parsedRecords_append, parsed]

/-- What the ingestor holds is next after the committed lines. -/
theorem HeldFrom.nothingSkipped {phase : TailPhase Instant}
    (held : HeldFrom times done rest phase) :
    NothingSkipped times (done ++ rest) (logBytes done).length phase := by
  cases phase with
  | waiting => trivial
  | resetting => exact held
  | loaded position => exact held
  | reading position => exact ReadTo.recordsAhead held
  | parsed rec position => exact ReadTo.recordsAhead held
  | staged row position =>
    obtain ⟨rec, devices, made, reached⟩ := held
    exact ⟨rec, devices, made, reached.recordsAhead⟩

/-- Rows that are those of the committed lines are those of the lines up to the offset. -/
theorem Committed.ingestedOnce (committed : Committed times done rest state) :
    IngestedOnce times (done ++ rest) state := by
  have upTo : endingBy state.offset (done ++ rest) = done := by
    rw [committed.offset, endingBy_logBytes]
  refine ⟨?_, ?_, ?_⟩
  · rw [upTo, committed.offset]
  · rw [upTo]
    exact committed.rows
  · rw [committed.offset]
    exact committed.held.nothingSkipped

/-- From an empty log and an empty table, however appends, readings, failures of the database,
crashes and restarts interleave, as long as whole lines are appended: the rows are the records
of the lines that end at or before the saved offset, in order and once each, and no record
after it has been passed over. -/
theorem ingested_once (times : TimeReader Instant) {labels : List TailLabel}
    {final : TailSystem Instant} (whole : ∀ label ∈ labels, WholeAppend label)
    (ran : Step.run (TailSystem.step times) TailSystem.fresh labels = some final)
    {lines : List (List Char)} (plain : ∀ line ∈ lines, PlainLine line)
    (log : final.file = logBytes lines) : IngestedOnce times lines final := by
  have initial : ∃ done rest, Committed times done rest (TailSystem.fresh : TailSystem Instant) :=
    ⟨[], [], by simp, rfl, rfl, .nil, trivial⟩
  have admitted : Step.Admits (TailSystem.step times)
      (fun _ label => True ∧ WholeAppend label) TailSystem.fresh labels :=
    (Step.admits_of_forall (fun _ _ => trivial) _ _).and whole
  obtain ⟨done, rest, committed⟩ : ∃ done rest, Committed times done rest final :=
    Step.run_preserves (fun state => ∃ done rest, Committed times done rest state)
      (fun _ _ _ before guarded stepped => by
        obtain ⟨done, rest, committed⟩ := before
        exact committed_step committed guarded.2 stepped)
      initial admitted ran
  have same : lines = done ++ rest :=
    logBytes_injective plain committed.plain (log.symm.trans committed.file)
  rw [same]
  exact committed.ingestedOnce

/-- A line without a record. -/
def unparsableLine : List Char := "tac_plus-ng starts".toList

/-- The log with a line that has no record between two that have one: the commit of the first is
refused, done again and not answered, and the ingestor has then read as far as the third. -/
theorem ingested_once_sample :
    IngestedOnce epochTimes [sampleLine, unparsableLine, sampleLine]
      ⟨logBytes [sampleLine, unparsableLine, sampleLine], [sampleRow], 31,
        .staged sampleRow 81⟩ := by
  have samplePlain : PlainLine sampleLine := ⟨by decide, by decide⟩
  have otherPlain : PlainLine unparsableLine := ⟨by decide, by decide⟩
  refine @ingested_once Int epochTimes
    [.append (logBytes [sampleLine]), .load, .openFile, .readLine, .persist [], .commit .refused,
      .load, .openFile, .readLine, .persist [], .commit .unanswered,
      .append (logBytes [unparsableLine, sampleLine]), .load, .openFile, .readLine, .readLine,
      .persist []]
    _ ?_ (by decide +kernel) [sampleLine, unparsableLine, sampleLine] ?_ rfl
  · simp only [List.forall_mem_cons, WholeAppend, true_and]
    exact ⟨⟨[sampleLine], by simpa using samplePlain, rfl⟩,
      ⟨[unparsableLine, sampleLine], by simpa using ⟨otherPlain, samplePlain⟩, rfl⟩, by simp⟩
  · simpa using ⟨samplePlain, otherPlain, samplePlain⟩

/-! ## The ingestor without its database -/

/-- The ingestor with its database where it has nothing in hand. -/
def withDatabase (state : IngestSystem Instant) : TailSystem Instant :=
  ⟨state.file, state.rows, state.offset, state.reader.elim .waiting .reading⟩

/-- A reading and what follows it is a reading, a session and a commit that returns. -/
theorem handleLine_withDatabase (devices : List Device) (state : IngestSystem Instant)
    {position : Nat} {byte : UInt8} {bytes later : List UInt8}
    (opened : state.reader = some position)
    (takes : takeLine (state.file.drop position) = (byte :: bytes, later)) :
    ∃ labels, Step.run (TailSystem.step times) (withDatabase state) labels =
      some (withDatabase (state.handleLine times devices position (byte :: bytes))) := by
  have reads : TailSystem.readLine times state.file position =
      TailSystem.lineRead times position (byte :: bytes) := by
    rw [TailSystem.readLine, takes]
  cases parsed : parseRecord times (lineText (byte :: bytes)) with
  | none =>
    refine ⟨[.readLine], ?_⟩
    simp [Step.run, TailSystem.step, withDatabase, opened, reads, TailSystem.lineRead,
      IngestSystem.handleLine, parsed]
  | some rec =>
    by_cases fits : (persistOne devices rec).fits times = true
    · refine ⟨[.readLine, .persist devices, .commit .answered], ?_⟩
      simp [Step.run, TailSystem.step, withDatabase, opened, reads, TailSystem.lineRead,
        TailSystem.persist, TailSystem.commit, IngestSystem.handleLine, parsed, fits]
    · refine ⟨[.readLine, .persist devices], ?_⟩
      simp [Step.run, TailSystem.step, withDatabase, opened, reads, TailSystem.lineRead,
        TailSystem.persist, IngestSystem.handleLine, parsed, fits]

/-- Every step of the ingestor is a run with its database. -/
theorem ingestStep_withDatabase (devices : List Device) {state next : IngestSystem Instant}
    {label : IngestLabel} (stepped : IngestSystem.step times devices state label = some next) :
    ∃ labels, Step.run (TailSystem.step times) (withDatabase state) labels =
      some (withDatabase next) := by
  cases label with
  | append count =>
    obtain rfl := Option.some.inj stepped
    exact ⟨[.append (state.pending.take count)], rfl⟩
  | start =>
    cases opened : state.reader with
    | some position => simp [IngestSystem.step, opened] at stepped
    | none =>
      by_cases shrunk : state.file.length < state.offset
      · simp only [IngestSystem.step, opened, if_pos shrunk] at stepped
        obtain rfl := Option.some.inj stepped
        refine ⟨[.load, .commit .answered, .openFile], ?_⟩
        simp [Step.run, TailSystem.step, withDatabase, opened, shrunk, TailSystem.commit]
      · simp only [IngestSystem.step, opened, if_neg shrunk] at stepped
        obtain rfl := Option.some.inj stepped
        refine ⟨[.load, .openFile], ?_⟩
        simp [Step.run, TailSystem.step, withDatabase, opened, shrunk]
  | poll =>
    cases opened : state.reader with
    | none => simp [IngestSystem.step, opened] at stepped
    | some position =>
      obtain ⟨taken, later, takes⟩ : ∃ taken later,
          takeLine (state.file.drop position) = (taken, later) := ⟨_, _, rfl⟩
      cases taken with
      | nil =>
        refine ⟨[.readLine], ?_⟩
        by_cases shrunk : state.file.length < position
        · simp only [IngestSystem.step, opened, takes, if_pos shrunk] at stepped
          obtain rfl := Option.some.inj stepped
          simp [Step.run, TailSystem.step, withDatabase, opened, TailSystem.readLine, takes, shrunk]
        · simp only [IngestSystem.step, opened, takes, if_neg shrunk] at stepped
          obtain rfl := Option.some.inj stepped
          simp [Step.run, TailSystem.step, withDatabase, opened, TailSystem.readLine, takes, shrunk]
      | cons byte bytes =>
        simp only [IngestSystem.step, opened, takes] at stepped
        obtain rfl := Option.some.inj stepped
        exact handleLine_withDatabase devices state opened takes

/-- Every run of the ingestor is one with its database. -/
theorem ingestRun_withDatabase (times : TimeReader Instant) (devices : List Device)
    {labels : List IngestLabel} {state final : IngestSystem Instant}
    (ran : (IngestSystem.step times devices).run state labels = some final) :
    ∃ tailLabels, Step.run (TailSystem.step times) (withDatabase state) tailLabels =
      some (withDatabase final) :=
  Step.run_simulates withDatabase
    (fun _ _ _ stepped => ingestStep_withDatabase devices stepped) ran

end TacacsWeb.Verif
