import TacacsWeb.Model.Ingestor

/-!
# Ingestion of a growing log

`readline` at the end of the file returns an unterminated piece of a line, and the ingestor
takes it for a line. As long as no reading ends inside a line, every line is read whole
whatever the pieces in which the daemon appends it, and the rows are the records of the
lines in order.
-/

namespace TacacsWeb.Verif

open TacacsWeb.Library TacacsWeb.Model

variable {Instant : Type}

/-- A line of the log: no line end inside it. -/
def PlainLine (line : List Char) : Prop := '\n' ∉ line ∧ '\r' ∉ line

/-- The bytes of complete lines. -/
def logBytes (lines : List (List Char)) : List UInt8 :=
  lines.flatMap fun line => Utf8.encode line ++ [10]

/-- The rows of the lines that have a record, in order. -/
def recordsOf (times : TimeReader Instant) (devices : List Device) (lines : List (List Char)) :
    List (AccountingRecord Instant) :=
  lines.filterMap fun line => (parseRecord times line).map (persistOne devices)

/-- A reading does not end inside a line, and the row it makes fits its columns. -/
def WholeLines (times : TimeReader Instant) (devices : List Device) (state : IngestSystem Instant) :
    IngestLabel → Prop
  | .poll => ∀ position, state.reader = some position →
      (state.file.drop position = [] ∨ 10 ∈ state.file.drop position ∨
        state.pending.head? = some 10) ∧
      ((parseRecord times (lineText (takeLine (state.file.drop position)).1)).all fun rec =>
        (persistOne devices rec).fits times) = true
  | _ => True

/-! ## Lines and bytes -/

/-- The bytes of a line hold no line end. -/
theorem encode_plain {line : List Char} (plain : PlainLine line) :
    10 ∉ Utf8.encode line ∧ 13 ∉ Utf8.encode line :=
  ⟨Utf8.notMem_encode (by decide) rfl plain.1, Utf8.notMem_encode (by decide) rfl plain.2⟩

/-- A byte that is no line end is taken with what follows. -/
theorem takeLine_cons {byte : UInt8} (rest : List UInt8) (inner : byte ≠ 10 ∧ byte ≠ 13) :
    takeLine (byte :: rest) = (byte :: (takeLine rest).1, (takeLine rest).2) := by
  rw [takeLine, if_neg (not_or.mpr inner)]
  exact fun _ returns _ => inner.2 returns

/-- Bytes without a line end are taken up to the first line feed. -/
theorem takeLine_terminated {front : List UInt8} (rest : List UInt8) (noFeed : 10 ∉ front)
    (noReturn : 13 ∉ front) : takeLine (front ++ 10 :: rest) = (front ++ [10], rest) := by
  induction front with
  | nil => rfl
  | cons byte front ih =>
    rw [List.mem_cons, not_or] at noFeed noReturn
    rw [List.cons_append, takeLine_cons _ ⟨Ne.symm noFeed.1, Ne.symm noReturn.1⟩,
      ih noFeed.2 noReturn.2]
    rfl

/-- Bytes without a line end are all taken at the end of the file. -/
theorem takeLine_unterminated {bytes : List UInt8} (noFeed : 10 ∉ bytes) (noReturn : 13 ∉ bytes) :
    takeLine bytes = (bytes, []) := by
  induction bytes with
  | nil => rfl
  | cons byte bytes ih =>
    rw [List.mem_cons, not_or] at noFeed noReturn
    rw [takeLine_cons _ ⟨Ne.symm noFeed.1, Ne.symm noReturn.1⟩, ih noFeed.2 noReturn.2]

/-- A text without carriage returns has nothing to translate. -/
theorem translateNewlines_plain {text : List Char} (absent : '\r' ∉ text) :
    translateNewlines text = text := by
  induction text with
  | nil => rfl
  | cons char text ih =>
    rw [List.mem_cons, not_or] at absent
    unfold translateNewlines
    split
    · rename_i nothing
      cases nothing
    · rename_i ends
      cases ends
      exact absurd rfl absent.1
    · rename_i head tail _ same
      cases same
      rw [if_neg (Ne.symm absent.1), ih absent.2]

/-- The text of a line's bytes is the line. -/
theorem lineText_encode {line : List Char} (plain : PlainLine line) :
    lineText (Utf8.encode line) = line := by
  rw [lineText, Utf8.decode_encode, translateNewlines_plain plain.2]

/-- The text of a terminated line is the line with its end. -/
theorem lineText_terminated {line : List Char} (plain : PlainLine line) :
    lineText (Utf8.encode line ++ [10]) = line ++ ['\n'] := by
  have joined : Utf8.encode line ++ [10] = Utf8.encode (line ++ ['\n']) := by
    rw [Utf8.encode_append]
    rfl
  rw [joined, lineText, Utf8.decode_encode, translateNewlines_plain]
  simp [plain.2]

/-- Bytes with a line feed that continue to a line hold the line. -/
theorem line_of_feed (front : List UInt8) {unread pending rest : List UInt8}
    (joined : unread ++ pending = front ++ 10 :: rest) (feed : 10 ∈ unread) (noFeed : 10 ∉ front) :
    ∃ later, unread = front ++ 10 :: later ∧ later ++ pending = rest := by
  rcases List.append_eq_append_iff.mp joined with ⟨more, rfl, -⟩ | ⟨more, rfl, tail⟩
  · exact absurd (List.mem_append_left more feed) noFeed
  · cases more with
    | nil => exact absurd (by simpa using feed) noFeed
    | cons byte later =>
      simp only [List.cons_append, List.cons.injEq] at tail
      obtain ⟨rfl, continued⟩ := tail
      exact ⟨later, rfl, continued.symm⟩

/-- Bytes without a line feed that the feed of a line follows are the line. -/
theorem line_of_next_feed {unread pending front rest : List UInt8}
    (joined : unread ++ pending = front ++ 10 :: rest) (noFeedRead : 10 ∉ unread)
    (next : pending.head? = some 10) (noFeed : 10 ∉ front) :
    unread = front ∧ pending = 10 :: rest := by
  rcases List.append_eq_append_iff.mp joined with ⟨more, rfl, tail⟩ | ⟨more, rfl, tail⟩
  · cases more with
    | nil => exact ⟨by simp, by simpa using tail⟩
    | cons byte later =>
      rw [tail, List.cons_append, List.head?_cons] at next
      obtain rfl := Option.some.inj next
      exact absurd (List.mem_append_right unread List.mem_cons_self) noFeed
  · cases more with
    | nil => exact ⟨by simp, by simpa using tail.symm⟩
    | cons byte later =>
      rw [List.cons_append, List.cons.injEq] at tail
      obtain ⟨rfl, -⟩ := tail
      exact absurd (List.mem_append_right front List.mem_cons_self) noFeedRead

/-! ## What every reading keeps -/

/-- The lines before the reader have been recorded; ahead of it are the other lines, after the
end of the last recorded one if that is still to be read. -/
structure Ingested (times : TimeReader Instant) (devices : List Device)
    (lines : List (List Char)) (state : IngestSystem Instant) (position : Nat)
    (read unread : List (List Char)) : Prop where
  /-- The reader is open. -/
  reader : state.reader = some position
  /-- It is within the file. -/
  inFile : position ≤ state.file.length
  /-- The lines are those recorded and those to come. -/
  split : lines = read ++ unread
  /-- The rows are the records of the lines read. -/
  rows : state.rows = recordsOf times devices read
  /-- The bytes to come are those of the lines to come. -/
  ahead : state.file.drop position ++ state.pending = logBytes unread ∨
    state.file.drop position ++ state.pending = 10 :: logBytes unread

/-- The state keeps up with the lines. -/
def KeepsUp (times : TimeReader Instant) (devices : List Device) (lines : List (List Char))
    (state : IngestSystem Instant) : Prop :=
  ∃ position read unread, Ingested times devices lines state position read unread

variable {times : TimeReader Instant} {devices : List Device} {lines : List (List Char)}

/-- Appending moves bytes from those to come into the file. -/
theorem keepsUp_append {state : IngestSystem Instant} (kept : KeepsUp times devices lines state)
    (count : Nat) :
    KeepsUp times devices lines { state with
      pending := state.pending.drop count
      file := state.file ++ state.pending.take count } := by
  obtain ⟨position, read, unread, ingested⟩ := kept
  have same : (state.file ++ state.pending.take count).drop position ++
      state.pending.drop count = state.file.drop position ++ state.pending := by
    rw [List.drop_append_of_le_length ingested.inFile, List.append_assoc, List.take_append_drop]
  refine ⟨position, read, unread, ingested.reader, ?_, ingested.split, ingested.rows, ?_⟩
  · rw [List.length_append]
    exact Nat.le_add_right_of_le ingested.inFile
  · simp only [same]
    exact ingested.ahead

/-- A reading that takes a terminated or a final line records it and moves past it. -/
theorem handleLine_line (state : IngestSystem Instant) (position : Nat) {bytes : List UInt8}
    {line : List Char} (read : parseRecord times (lineText bytes) = parseRecord times line)
    (fits : ((parseRecord times (lineText bytes)).all fun rec =>
      (persistOne devices rec).fits times) = true) :
    (state.handleLine times devices position bytes).reader = some (position + bytes.length) ∧
      (state.handleLine times devices position bytes).rows =
        state.rows ++ recordsOf times devices [line] ∧
      (state.handleLine times devices position bytes).file = state.file ∧
      (state.handleLine times devices position bytes).pending = state.pending := by
  unfold IngestSystem.handleLine recordsOf
  cases parsed : parseRecord times (lineText bytes) with
  | none => simp [← read, parsed]
  | some rec =>
    have taken : (persistOne devices rec).fits times = true := by simpa [parsed] using fits
    simp [← read, parsed, taken]

/-- The bytes left after those taken. -/
theorem drop_taken {file taken rest : List UInt8} {position : Nat}
    (here : file.drop position = taken ++ rest) : file.drop (position + taken.length) = rest := by
  rw [← List.drop_drop, here, List.drop_left]

/-- The position after the bytes taken is within the file. -/
theorem taken_inFile {file taken rest : List UInt8} {position : Nat}
    (here : file.drop position = taken ++ rest) (inFile : position ≤ file.length) :
    position + taken.length ≤ file.length := by
  have size := congrArg List.length here
  rw [List.length_drop, List.length_append] at size
  omega

/-- The record of nothing. -/
theorem recordsOf_blank : recordsOf times devices [[]] = [] := rfl

/-- A reading that takes the bytes of a line, with or without its end, keeps up. -/
theorem keepsUp_taken {state : IngestSystem Instant} {position : Nat} {taken later : List UInt8}
    (line : List Char) {read readThen unread unreadThen : List (List Char)}
    (ingested : Ingested times devices lines state position read unread)
    (here : state.file.drop position = taken ++ later)
    (parsed : parseRecord times (lineText taken) = parseRecord times line)
    (fits : ((parseRecord times (lineText taken)).all fun rec =>
      (persistOne devices rec).fits times) = true)
    (recorded : recordsOf times devices readThen =
      recordsOf times devices read ++ recordsOf times devices [line])
    (split : lines = readThen ++ unreadThen)
    (ahead : later ++ state.pending = logBytes unreadThen ∨
      later ++ state.pending = 10 :: logBytes unreadThen) :
    KeepsUp times devices lines (state.handleLine times devices position taken) := by
  obtain ⟨reader, rows, file, pending⟩ :=
    handleLine_line state position parsed fits
  refine ⟨position + taken.length, readThen, unreadThen, reader, ?_, split, ?_, ?_⟩
  · rw [file]
    exact taken_inFile here ingested.inFile
  · rw [rows, ingested.rows, recorded]
  · rw [file, pending, drop_taken here]
    exact ahead

/-- One reading of bytes that are there to read. -/
theorem step_poll {state : IngestSystem Instant} {position : Nat} {taken later : List UInt8}
    (reader : state.reader = some position)
    (takes : takeLine (state.file.drop position) = (taken, later)) (some_bytes : taken ≠ []) :
    IngestSystem.step times devices state .poll =
      some (state.handleLine times devices position taken) := by
  cases taken with
  | nil => exact absurd rfl some_bytes
  | cons byte rest => simp only [IngestSystem.step, reader, takes]

/-- A reading whose bytes are those of a line, with or without its end, keeps up. -/
theorem keepsUp_reading {state next : IngestSystem Instant} {position : Nat}
    {taken later : List UInt8} (line : List Char)
    {read readThen unread unreadThen : List (List Char)}
    (ingested : Ingested times devices lines state position read unread)
    (takes : takeLine (state.file.drop position) = (taken, later))
    (here : state.file.drop position = taken ++ later) (some_bytes : taken ≠ [])
    (parsed : parseRecord times (lineText taken) = parseRecord times line)
    (fits : ((parseRecord times (lineText (takeLine (state.file.drop position)).1)).all
      fun rec => (persistOne devices rec).fits times) = true)
    (recorded : recordsOf times devices readThen =
      recordsOf times devices read ++ recordsOf times devices [line])
    (split : lines = readThen ++ unreadThen)
    (ahead : later ++ state.pending = logBytes unreadThen ∨
      later ++ state.pending = 10 :: logBytes unreadThen)
    (stepped : IngestSystem.step times devices state .poll = some next) :
    KeepsUp times devices lines next := by
  rw [step_poll ingested.reader takes some_bytes] at stepped
  cases stepped
  rw [takes] at fits
  exact keepsUp_taken line ingested here parsed fits recorded split ahead

/-- One more line read is one more record at the end. -/
theorem recordsOf_append (read : List (List Char)) (line : List Char) :
    recordsOf times devices (read ++ [line]) =
      recordsOf times devices read ++ recordsOf times devices [line] :=
  List.filterMap_append

/-- The bytes of one more line. -/
theorem logBytes_cons (line : List Char) (lines : List (List Char)) :
    logBytes (line :: lines) = Utf8.encode line ++ 10 :: logBytes lines := by
  rw [logBytes, List.flatMap_cons, List.append_assoc]
  rfl

/-- Bytes ahead of a reader at the start of a line are those of the line and its end. -/
theorem line_ahead {unreadBytes pending : List UInt8} {unread : List (List Char)}
    (ahead : unreadBytes ++ pending = logBytes unread) (content : unreadBytes ≠ []) :
    ∃ line rest, unread = line :: rest ∧
      unreadBytes ++ pending = Utf8.encode line ++ 10 :: logBytes rest := by
  cases unread with
  | nil => exact absurd (List.append_eq_nil_iff.mp ahead).1 content
  | cons line rest =>
    exact ⟨line, rest, rfl, ahead.trans (logBytes_cons line rest)⟩

section Reading

variable {state next : IngestSystem Instant} {position : Nat} {read unread : List (List Char)}

/-- A reading from the start of a line that is there with its end. -/
theorem keepsUp_terminated (plain : ∀ line ∈ unread, PlainLine line)
    (ingested : Ingested times devices lines state position read unread)
    (fits : ((parseRecord times (lineText (takeLine (state.file.drop position)).1)).all
      fun rec => (persistOne devices rec).fits times) = true)
    (fresh : state.file.drop position ++ state.pending = logBytes unread)
    (feed : 10 ∈ state.file.drop position)
    (stepped : IngestSystem.step times devices state .poll = some next) :
    KeepsUp times devices lines next := by
  obtain ⟨line, rest, rfl, shape⟩ := line_ahead fresh (List.ne_nil_of_mem feed)
  have plainLine := plain line List.mem_cons_self
  obtain ⟨noFeed, noReturn⟩ := encode_plain plainLine
  obtain ⟨later, here, toCome⟩ := line_of_feed _ shape feed noFeed
  have takes : takeLine (state.file.drop position) = (Utf8.encode line ++ [10], later) := by
    rw [here, takeLine_terminated later noFeed noReturn]
  have parsed : parseRecord times (lineText (Utf8.encode line ++ [10])) =
      parseRecord times line := by
    rw [lineText_terminated plainLine, parseRecord_newline]
  exact keepsUp_reading line ingested takes (here.trans (List.append_cons _ _ _)) (by simp) parsed
    fits (recordsOf_append read line) (by simp [ingested.split]) (.inl toCome) stepped

/-- A reading from the start of a line whose end is the next byte to be appended. -/
theorem keepsUp_unterminated (plain : ∀ line ∈ unread, PlainLine line)
    (ingested : Ingested times devices lines state position read unread)
    (fits : ((parseRecord times (lineText (takeLine (state.file.drop position)).1)).all
      fun rec => (persistOne devices rec).fits times) = true)
    (fresh : state.file.drop position ++ state.pending = logBytes unread)
    (content : state.file.drop position ≠ []) (feed : 10 ∉ state.file.drop position)
    (following : state.pending.head? = some 10)
    (stepped : IngestSystem.step times devices state .poll = some next) :
    KeepsUp times devices lines next := by
  obtain ⟨line, rest, rfl, shape⟩ := line_ahead fresh content
  have plainLine := plain line List.mem_cons_self
  obtain ⟨noFeed, noReturn⟩ := encode_plain plainLine
  obtain ⟨here, toCome⟩ := line_of_next_feed shape feed following noFeed
  have takes : takeLine (state.file.drop position) = (Utf8.encode line, []) := by
    rw [here, takeLine_unterminated noFeed noReturn]
  have parsed : parseRecord times (lineText (Utf8.encode line)) = parseRecord times line := by
    rw [lineText_encode plainLine]
  exact keepsUp_reading line ingested takes (here.trans (List.append_nil _).symm)
    (here ▸ content) parsed fits (recordsOf_append read line) (by simp [ingested.split])
    (.inr toCome) stepped

/-- A reading of the end of the last line, which has no record of its own. -/
theorem keepsUp_lineEnd (ingested : Ingested times devices lines state position read unread)
    (fits : ((parseRecord times (lineText (takeLine (state.file.drop position)).1)).all
      fun rec => (persistOne devices rec).fits times) = true)
    (ended : state.file.drop position ++ state.pending = 10 :: logBytes unread)
    (feed : 10 ∈ state.file.drop position)
    (stepped : IngestSystem.step times devices state .poll = some next) :
    KeepsUp times devices lines next := by
  obtain ⟨later, here, toCome⟩ := line_of_feed [] ended feed List.not_mem_nil
  have takes : takeLine (state.file.drop position) = ([10], later) := by
    rw [here, takeLine_terminated later List.not_mem_nil List.not_mem_nil]
    rfl
  exact keepsUp_reading [] ingested takes here (by simp) rfl fits (by simp [recordsOf_blank])
    ingested.split (.inl toCome) stepped

/-- Nothing to read leaves the state as it is. -/
theorem step_poll_nothing (ingested : Ingested times devices lines state position read unread)
    (nothing : state.file.drop position = [])
    (stepped : IngestSystem.step times devices state .poll = some next) : next = state := by
  have noShrink : ¬ state.file.length < position := Nat.not_lt.mpr ingested.inFile
  simp only [IngestSystem.step, ingested.reader, nothing, takeLine, if_neg noShrink] at stepped
  cases stepped
  rfl

end Reading

/-- A reading of whole lines keeps up. -/
theorem keepsUp_poll {state next : IngestSystem Instant} (plain : ∀ line ∈ lines, PlainLine line)
    (kept : KeepsUp times devices lines state) (guarded : WholeLines times devices state .poll)
    (stepped : IngestSystem.step times devices state .poll = some next) :
    KeepsUp times devices lines next := by
  obtain ⟨position, read, unread, ingested⟩ := kept
  obtain ⟨whole, fits⟩ := guarded position ingested.reader
  have plainUnread : ∀ line ∈ unread, PlainLine line := fun line listed =>
    plain line (ingested.split ▸ List.mem_append_right read listed)
  by_cases content : state.file.drop position = []
  · rw [step_poll_nothing ingested content stepped]
    exact ⟨position, read, unread, ingested⟩
  by_cases feed : 10 ∈ state.file.drop position
  · rcases ingested.ahead with fresh | ended
    · exact keepsUp_terminated plainUnread ingested fits fresh feed stepped
    · exact keepsUp_lineEnd ingested fits ended feed stepped
  · have following := (whole.resolve_left content).resolve_left feed
    rcases ingested.ahead with fresh | ended
    · exact keepsUp_unterminated plainUnread ingested fits fresh content feed following stepped
    · -- The end of the last line would be the first byte to read.
      cases bytes : state.file.drop position with
      | nil => exact absurd bytes content
      | cons byte others =>
        rw [bytes, List.cons_append, List.cons.injEq] at ended
        rw [bytes, ended.1] at feed
        exact absurd List.mem_cons_self feed

/-- Every step of whole lines keeps up. -/
theorem keepsUp_step {state next : IngestSystem Instant} {label : IngestLabel}
    (plain : ∀ line ∈ lines, PlainLine line) (kept : KeepsUp times devices lines state)
    (guarded : WholeLines times devices state label)
    (stepped : IngestSystem.step times devices state label = some next) :
    KeepsUp times devices lines next := by
  cases label with
  | append count =>
    cases stepped
    exact keepsUp_append kept count
  | start =>
    obtain ⟨position, read, unread, ingested⟩ := kept
    simp [IngestSystem.step, ingested.reader] at stepped
  | poll => exact keepsUp_poll plain kept guarded stepped

/-- The daemon is about to write the lines to an empty log that the reader has opened. -/
def freshLog (lines : List (List Char)) : IngestSystem Instant :=
  ⟨logBytes lines, [], [], 0, some 0⟩

/-- Everything has been appended and read. -/
def AllRead (state : IngestSystem Instant) : Prop :=
  state.pending = [] ∧ state.reader = some state.file.length

/-- However the daemon's appends and the readings interleave, as long as every reading is of
whole lines whose rows fit, the rows are the records of the lines once all has been read. -/
theorem rows_of_whole_lines (times : TimeReader Instant) (devices : List Device)
    {lines : List (List Char)} (plain : ∀ line ∈ lines, PlainLine line)
    {labels : List IngestLabel} {final : IngestSystem Instant}
    (whole : (IngestSystem.step times devices).Admits (WholeLines times devices) (freshLog lines)
      labels)
    (ran : (IngestSystem.step times devices).run (freshLog lines) labels = some final)
    (complete : AllRead final) : final.rows = recordsOf times devices lines := by
  have initial : KeepsUp times devices lines (freshLog lines) :=
    ⟨0, [], lines, rfl, Nat.zero_le _, rfl, rfl, .inl rfl⟩
  obtain ⟨position, read, unread, ingested⟩ : KeepsUp times devices lines final :=
    Step.run_preserves _ (fun _ _ _ before guarded stepped =>
      keepsUp_step plain before guarded stepped) initial whole ran
  obtain rfl := Option.some.inj (ingested.reader.symm.trans complete.2)
  have nothing : final.file.drop final.file.length ++ final.pending = [] := by
    rw [complete.1, List.drop_length]
    rfl
  have split := ingested.split
  cases unread with
  | nil => rw [ingested.rows, split, List.append_nil]
  | cons line unread =>
    rcases ingested.ahead with fresh | ended
    · rw [nothing] at fresh
      simp [logBytes] at fresh
    · rw [nothing] at ended
      cases ended

/-- A reader of epoch times. -/
def epochTimes : TimeReader Int := ⟨Char.isDigit, some, fun _ _ => none, fun _ => true⟩

/-- One line of the log. -/
def sampleLine : List Char := "1\tn\tu\tp\tc\tk\tstop\tservice=shell".toList

/-- The row of the line. -/
def sampleRow : AccountingRecord Int :=
  ⟨some 1, some "n", some "u", some "p", some "c", "stop", some "shell", none, none, none, some "k",
    none, Dict.ofList [("service", "shell")]⟩

/-- The rows when the line arrives in two pieces that are read together. -/
theorem rows_of_whole_lines_sample :
    [sampleRow] = recordsOf epochTimes [] [sampleLine] :=
  @rows_of_whole_lines Int epochTimes [] [sampleLine]
    (by simp only [List.mem_singleton, forall_eq]; exact ⟨by decide, by decide⟩)
    [.append 20, .append 40, .poll]
    ⟨[], logBytes [sampleLine], [sampleRow], 31, some 31⟩
    (.cons trivial rfl (.cons trivial rfl (.cons (fun position opened => by
      cases opened
      exact ⟨.inr (.inl (by decide +kernel)), by decide +kernel⟩) rfl trivial)))
    (by decide +kernel) ⟨rfl, by decide +kernel⟩

/-- A reading that ends inside the line: the piece is recorded as a line of its own, without the
service, and the rest is dropped. -/
theorem rows_of_split_line :
    ¬ ∀ (lines : List (List Char)) (labels : List IngestLabel) (final : IngestSystem Int),
      (∀ line ∈ lines, PlainLine line) →
      (IngestSystem.step epochTimes []).run (freshLog lines) labels = some final →
        AllRead final → final.rows = recordsOf epochTimes [] lines := by
  intro claimed
  have whole := claimed [sampleLine] [.append 20, .poll, .append 40, .poll]
    ⟨[], logBytes [sampleLine], [{ sampleRow with service := none, rawAvPairs := ∅ }], 20, some 31⟩
    (by simp only [List.mem_singleton, forall_eq]; exact ⟨by decide, by decide⟩)
    (by decide +kernel) ⟨rfl, by decide +kernel⟩
  revert whole
  decide +kernel

end TacacsWeb.Verif
