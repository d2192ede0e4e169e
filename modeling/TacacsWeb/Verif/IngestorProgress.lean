import TacacsWeb.Verif.IngestedOnce

/-!
# Lines that wedge the ingestor

A line whose record the table refuses makes every insertion raise, and the outer loop goes
back to the offset before it. With a healthy database the ingestor gets past every line of
the log exactly when every line is tame: its fields, copied as they are, fit their columns.
-/

namespace TacacsWeb.Verif

open TacacsWeb.Library TacacsWeb.Library.Text TacacsWeb.Model

variable {Instant : Type}

/-! ## The property -/

/-- The bytes that `readline` takes and those it leaves are the bytes. -/
theorem takeLine_append (bytes : List UInt8) :
    (takeLine bytes).1 ++ (takeLine bytes).2 = bytes := by
  fun_induction takeLine bytes with
  | case1 => rfl
  | case2 => rfl
  | case3 => rfl
  | case4 byte rest _ _ ih => exact congrArg (byte :: ·) ih

/-- `readline` takes something while there is something. -/
theorem takeLine_ne_nil {bytes : List UInt8} (some_bytes : bytes ≠ []) :
    (takeLine bytes).1 ≠ [] := by
  fun_cases takeLine bytes with
  | case1 => exact absurd rfl some_bytes
  | case2 => exact List.cons_ne_nil _ _
  | case3 => exact List.cons_ne_nil _ _
  | case4 => exact List.cons_ne_nil _ _

/-- `readline` leaves less than there is. -/
theorem takeLine_shorter (byte : UInt8) (rest : List UInt8) :
    (takeLine (byte :: rest)).2.length < (byte :: rest).length := by
  have joined := congrArg List.length (takeLine_append (byte :: rest))
  have taken := List.length_pos_iff.mpr (takeLine_ne_nil (List.cons_ne_nil byte rest))
  rw [List.length_append] at joined
  omega

/-- The lines that `readline` takes, one after the other, up to the end of the bytes. -/
def logLines : List UInt8 → List (List UInt8)
  | [] => []
  | byte :: rest => (takeLine (byte :: rest)).1 :: logLines (takeLine (byte :: rest)).2
termination_by bytes => bytes.length
decreasing_by exact takeLine_shorter byte rest

/-- The migrated table takes the row, and no text or JSON value in it holds a NUL. -/
def Insertable (times : TimeReader Instant) (row : AccountingRecord Instant) : Prop :=
  row.fits times = true ∧
    ∀ key value, row.rawAvPairs.get? key = some value → '\x00' ∉ value.toList

/-- What the ingestor does next in a phase while nothing fails. -/
def nextLabel (devices : List Device) : TailPhase Instant → TailLabel
  | .waiting => .load
  | .resetting => .commit .answered
  | .loaded _ => .openFile
  | .reading _ => .readLine
  | .parsed _ _ => .persist devices
  | .staged _ _ => .commit .answered

/-- One step with a healthy database and the device table of the moment. -/
def healthyStep (times : TimeReader Instant) (state : TailSystem Instant) (devices : List Device) :
    TailSystem Instant :=
  (TailSystem.step times state (nextLabel devices state.phase)).getD state

/-- As many steps with a healthy database as there are device tables. -/
def healthyRun (times : TimeReader Instant) (state : TailSystem Instant)
    (tables : List (List Device)) : TailSystem Instant :=
  tables.foldl (healthyStep times) state

/-- Every accepted line can be inserted, and the loop gets past the last line of the log. -/
structure NeverWedges (times : TimeReader Instant) (file : List UInt8) : Prop where
  /-- The row of every accepted line can be inserted. -/
  insertable : ∀ line ∈ logLines file, ∀ rec, parseRecord times (lineText line) = some rec →
    ∀ devices, Insertable times (persistOne devices rec)
  /-- The loop reaches the end of the log in a number of steps. -/
  passes : ∃ steps, ∀ rows, ∀ tables : List (List Device), tables.length = steps →
    (healthyRun times ⟨file, rows, 0, .waiting⟩ tables).phase = .reading file.length

/-! ## The condition -/

/-- The tab-separated fields of a line. -/
def fieldsOf (line : List Char) : List (List Char) :=
  (dropEndWhile (· = '\r') (dropEndWhile (· = '\n') line)).splitOn '\t'

/-- A field that a column of the width takes. -/
def ShortField (width : Nat) (field : List Char) : Prop := field.length ≤ width ∧ '\x00' ∉ field

/-- An attribute that is no integer, or one of 32 bits. -/
def SmallInteger (pairs : Dict String String) (key : String) : Prop :=
  ∀ text value, pairs.get? key = some text → parseInt text = some value →
    -2147483648 ≤ value ∧ value ≤ 2147483647

/-- Attributes that their columns take. -/
structure TamePairs (pairs : Dict String String) : Prop where
  /-- No value holds a NUL. -/
  values : ∀ key value, pairs.get? key = some value → '\x00' ∉ value.toList
  /-- The service has at most 32 characters. -/
  service : ∀ value, pairs.get? "service" = some value → value.length ≤ 32
  /-- The privilege level fits. -/
  privLvl : SmallInteger pairs "priv-lvl"
  /-- The elapsed time fits. -/
  elapsedTime : SmallInteger pairs "elapsed_time"

/-- A line whose fields and attributes fit the columns they are copied to. -/
def TameLine (times : TimeReader Instant) (line : List Char) : Prop :=
  match fieldsOf line with
  | ts :: nas :: user :: port :: nac :: taskId :: action :: args :: extras =>
    (∀ instant, parseTs times (String.ofList ts) = some instant → times.storable instant = true) ∧
      ShortField 64 nas ∧ ShortField 256 user ∧ ShortField 64 port ∧ ShortField 64 nac ∧
      ShortField 64 taskId ∧ ShortField 16 action ∧
      TamePairs (parseArgs (['\t'].intercalate (args :: extras)))
  | _ => True

/-! ## Columns and fields -/

/-- A column takes a field exactly when it is short. -/
theorem textFits_field (width : Nat) (field : List Char) :
    textFits (some width) (some (String.ofList field)) = true ↔ ShortField width field := by
  simp [textFits, ShortField]

/-- A field that may be empty. -/
theorem textFits_textOrNone (width : Nat) (field : List Char) :
    textFits (some width) (textOrNone field) = true ↔ ShortField width field := by
  rw [textOrNone]
  split
  · rename_i empty
    simp [empty, textFits, ShortField]
  · exact textFits_field width field

/-- The kind of record, with its default. -/
theorem textFits_action (action : List Char) :
    textFits (some 16) (some ((textOrNone action).getD "unknown")) = true ↔
      ShortField 16 action := by
  rw [textOrNone]
  split
  · rename_i empty
    have default : textFits (some 16) (some "unknown") = true := by decide
    simp [empty, default, ShortField]
  · exact textFits_field 16 action

/-- An attribute that is read as an integer. -/
theorem integerFits_attribute (pairs : Dict String String) (key : String) :
    integerFits ((pairs.get? key).bind parseInt) = true ↔ SmallInteger pairs key := by
  unfold SmallInteger
  cases pairs.get? key with
  | none => simp [integerFits]
  | some text =>
    cases read : parseInt text with
    | none =>
      constructor
      · intro _ other value same found
        cases Option.some.inj same
        cases read.symm.trans found
      · exact fun _ => by simp [integerFits, read]
    | some value =>
      constructor
      · intro fits other found same parsed
        cases Option.some.inj same
        cases Option.some.inj (read.symm.trans parsed)
        simpa [integerFits, read] using fits
      · intro small
        simpa [integerFits, read] using small text value rfl read

/-- Attributes go into their columns and into the JSON value exactly when they are tame. -/
theorem tamePairs_iff (pairs : Dict String String) :
    TamePairs pairs ↔
      (textFits (some 32) (pairs.get? "service") = true ∧
        textFits none (pairs.get? "cmd") = true ∧
        integerFits ((pairs.get? "priv-lvl").bind parseInt) = true ∧
        integerFits ((pairs.get? "elapsed_time").bind parseInt) = true) ∧
      ∀ key value, pairs.get? key = some value → '\x00' ∉ value.toList := by
  rw [integerFits_attribute, integerFits_attribute]
  constructor
  · intro tame
    refine ⟨⟨?_, ?_, tame.privLvl, tame.elapsedTime⟩, tame.values⟩
    · cases found : pairs.get? "service" with
      | none => rfl
      | some value => simp [textFits, tame.service value found, tame.values _ value found]
    · cases found : pairs.get? "cmd" with
      | none => rfl
      | some value => simp [textFits, tame.values _ value found]
  · rintro ⟨⟨service, -, privLvl, elapsedTime⟩, values⟩
    refine ⟨values, fun value found => ?_, privLvl, elapsedTime⟩
    rw [found] at service
    simp only [textFits, Option.all_some, Bool.and_eq_true, decide_eq_true_eq] at service
    exact service.1

/-- `parse_record` in the words of the fields: an empty line has one field. -/
theorem parseRecord_fieldsOf (times : TimeReader Instant) (line : List Char) :
    parseRecord times line =
      match fieldsOf line with
      | ts :: nas :: user :: port :: nac :: taskId :: action :: args :: extras =>
        some ⟨parseTs times (String.ofList ts), textOrNone nas, textOrNone user, textOrNone port,
          textOrNone nac, textOrNone taskId, (textOrNone action).getD "unknown",
          parseArgs (['\t'].intercalate (args :: extras))⟩
      | _ => none := by
  unfold parseRecord fieldsOf
  simp only
  split
  · rename_i empty
    rw [empty]
    rfl
  · rfl

/-- The row of a line can be inserted exactly when the line is tame, whatever the devices. -/
theorem insertable_iff (times : TimeReader Instant) (line : List Char) :
    (∀ rec, parseRecord times line = some rec →
      ∀ devices, Insertable times (persistOne devices rec)) ↔ TameLine times line := by
  rw [parseRecord_fieldsOf, TameLine]
  generalize fieldsOf line = fields
  match fields with
  | ts :: nas :: user :: port :: nac :: taskId :: action :: args :: extras =>
    have time : (parseTs times (String.ofList ts)).all times.storable = true ↔
        ∀ instant, parseTs times (String.ofList ts) = some instant →
          times.storable instant = true := by
      cases parseTs times (String.ofList ts) <;> simp
    have pairs := tamePairs_iff (parseArgs (['\t'].intercalate (args :: extras)))
    simp only [Option.some.injEq, forall_eq', Insertable, AccountingRecord.fits, persistOne,
      Bool.and_eq_true, textFits_textOrNone, textFits_action, forall_const, time, pairs]
    constructor
    · rintro ⟨⟨⟨⟨⟨⟨⟨⟨⟨⟨⟨ts, nas⟩, user⟩, port⟩, nac⟩, action⟩, service⟩, cmd⟩, level⟩,
        elapsed⟩, task⟩, values⟩
      exact ⟨ts, nas, user, port, nac, task, action, ⟨service, cmd, level, elapsed⟩, values⟩
    · rintro ⟨ts, nas, user, port, nac, task, action, ⟨service, cmd, level, elapsed⟩, values⟩
      exact ⟨⟨⟨⟨⟨⟨⟨⟨⟨⟨⟨ts, nas⟩, user⟩, port⟩, nac⟩, action⟩, service⟩, cmd⟩, level⟩,
        elapsed⟩, task⟩, values⟩
  | [] | [_] | [_, _] | [_, _, _] | [_, _, _, _] | [_, _, _, _, _] | [_, _, _, _, _, _]
  | [_, _, _, _, _, _, _] => simp

/-! ## Lines of the log -/

/-- The first line is what `readline` takes, and the others are the lines of the rest. -/
theorem logLines_cons {bytes line : List UInt8} {rest : List (List UInt8)}
    (lines : logLines bytes = line :: rest) :
    line ≠ [] ∧ (takeLine bytes).1 = line ∧ logLines (takeLine bytes).2 = rest := by
  cases bytes with
  | nil => simp [logLines] at lines
  | cons byte later =>
    rw [logLines, List.cons.injEq] at lines
    exact ⟨lines.1 ▸ takeLine_ne_nil (List.cons_ne_nil byte later), lines.1, lines.2⟩

/-- Behind its first lines a log has its other lines. -/
theorem logLines_drop {bytes : List UInt8} {front rest : List (List UInt8)}
    (lines : logLines bytes = front ++ rest) :
    logLines (bytes.drop front.flatten.length) = rest := by
  induction front generalizing bytes with
  | nil => simpa using lines
  | cons line front ih =>
    obtain ⟨-, taken, later⟩ := logLines_cons lines
    have rest_bytes : bytes.drop line.length = (takeLine bytes).2 := by
      have joined := takeLine_append bytes
      rw [taken] at joined
      rw [← joined, List.drop_left, joined]
    rw [List.flatten_cons, List.length_append, ← List.drop_drop, rest_bytes]
    exact ih later

/-- The lines of a log written line by line. -/
theorem logLines_logBytes {lines : List (List Char)} (plain : ∀ line ∈ lines, PlainLine line) :
    logLines (logBytes lines) = lines.map fun line => Utf8.encode line ++ [10] := by
  induction lines with
  | nil => simp [logLines, logBytes]
  | cons line lines ih =>
    have later := ih fun other listed => plain other (List.mem_cons_of_mem _ listed)
    have takes := takeLine_logBytes (plain line List.mem_cons_self) lines
    cases shape : logBytes (line :: lines) with
    | nil =>
      rw [shape] at takes
      simp [takeLine] at takes
    | cons byte bytes =>
      rw [shape] at takes
      rw [logLines, takes, later, List.map_cons]

/-- The lines joined are the log. -/
theorem flatten_logLines (bytes : List UInt8) : (logLines bytes).flatten = bytes := by
  fun_induction logLines bytes with
  | case1 => rfl
  | case2 byte rest ih => rw [List.flatten_cons, ih, takeLine_append]

/-! ## Getting past the lines -/

variable {times : TimeReader Instant} {file : List UInt8}

/-- A healthy step while reading. -/
theorem healthyStep_reading {state : TailSystem Instant} {position : Nat}
    (reading : state.phase = .reading position) (devices : List Device) :
    healthyStep times state devices =
      { state with phase := TailSystem.readLine times state.file position } := by
  simp only [healthyStep, nextLabel, TailSystem.step, reading, Option.getD_some]

/-- The two healthy steps after a record whose row fits. -/
theorem healthyStep_parsed {state : TailSystem Instant} {rec : ParsedRecord Instant}
    {position : Nat} (parsed : state.phase = .parsed rec position) (devices later : List Device)
    (fits : (persistOne devices rec).fits times = true) :
    healthyStep times (healthyStep times state devices) later =
      { state with
        rows := state.rows ++ [persistOne devices rec]
        offset := position
        phase := .reading position } := by
  simp only [healthyStep, nextLabel, TailSystem.step, parsed, TailSystem.persist, if_pos fits,
    Option.getD_some, TailSystem.commit]

/-- Reading on from the position takes the ingestor to the end of the file. -/
def PassesFrom (times : TimeReader Instant) (file : List UInt8) (position : Nat) : Prop :=
  ∃ steps, ∀ state : TailSystem Instant, state.file = file → state.phase = .reading position →
    ∀ tables : List (List Device), tables.length = steps →
      (healthyRun times state tables).phase = .reading file.length

/-- A line whose row fits, or that has no record, is got past. -/
theorem passesFrom_line {position : Nat} {taken later : List UInt8} (some_bytes : taken ≠ [])
    (takes : takeLine (file.drop position) = (taken, later))
    (fits : ∀ rec, parseRecord times (lineText taken) = some rec →
      ∀ devices, (persistOne devices rec).fits times = true)
    (beyond : PassesFrom times file (position + taken.length)) :
    PassesFrom times file position := by
  obtain ⟨steps, passes⟩ := beyond
  have reads : TailSystem.readLine times file position =
      TailSystem.lineRead times position taken := by
    obtain ⟨byte, bytes, rfl⟩ := List.exists_cons_of_ne_nil some_bytes
    rw [TailSystem.readLine, takes]
  rw [TailSystem.lineRead] at reads
  cases parsed : parseRecord times (lineText taken) with
  | none =>
    refine ⟨steps + 1, fun state sameFile reading tables count => ?_⟩
    obtain ⟨devices, rest, rfl⟩ := List.exists_cons_of_length_eq_add_one count
    have moved : healthyStep times state devices =
        { state with phase := .reading (position + taken.length) } := by
      rw [healthyStep_reading reading, sameFile, reads, parsed]
    have ahead := passes (healthyStep times state devices) (by rw [moved]; exact sameFile)
      (by rw [moved]) rest (Nat.succ.inj count)
    exact ahead
  | some rec =>
    refine ⟨steps + 3, fun state sameFile reading tables count => ?_⟩
    obtain ⟨first, afterFirst, rfl⟩ := List.exists_cons_of_length_eq_add_one count
    obtain ⟨second, afterSecond, rfl⟩ :=
      List.exists_cons_of_length_eq_add_one (Nat.succ.inj count)
    obtain ⟨third, rest, rfl⟩ :=
      List.exists_cons_of_length_eq_add_one (Nat.succ.inj (Nat.succ.inj count))
    have moved : healthyStep times state first =
        { state with phase := .parsed rec (position + taken.length) } := by
      rw [healthyStep_reading reading, sameFile, reads, parsed]
    have parsedPhase : (healthyStep times state first).phase =
        .parsed rec (position + taken.length) := by
      rw [moved]
    have inserted := healthyStep_parsed parsedPhase second third (fits rec parsed second)
    have ahead := passes (healthyStep times (healthyStep times (healthyStep times state first)
      second) third) (by rw [inserted, moved]; exact sameFile) (by rw [inserted]) rest
      (by simpa using count)
    exact ahead

/-- Lines whose rows fit are all got past. -/
theorem passesFrom_of_fits {position : Nat} (inFile : position ≤ file.length)
    (fits : ∀ line ∈ logLines (file.drop position), ∀ rec,
      parseRecord times (lineText line) = some rec →
        ∀ devices, (persistOne devices rec).fits times = true) :
    PassesFrom times file position := by
  generalize shape : logLines (file.drop position) = lines at fits
  induction lines generalizing position with
  | nil =>
    have joined := flatten_logLines (file.drop position)
    rw [shape] at joined
    have atEnd : position = file.length := by
      have length := congrArg List.length joined
      rw [List.flatten_nil, List.length_nil, List.length_drop] at length
      omega
    refine ⟨0, fun state _ reading tables count => ?_⟩
    obtain rfl := List.length_eq_zero_iff.mp count
    rw [← atEnd]
    exact reading
  | cons line lines ih =>
    obtain ⟨some_bytes, taken, later⟩ := logLines_cons shape
    have joined := takeLine_append (file.drop position)
    rw [taken] at joined
    have rest : file.drop (position + line.length) = (takeLine (file.drop position)).2 :=
      drop_taken joined.symm
    have within := taken_inFile joined.symm inFile
    have takes : takeLine (file.drop position) = (line, (takeLine (file.drop position)).2) :=
      Prod.ext taken rfl
    refine passesFrom_line some_bytes takes (fits line List.mem_cons_self) ?_
    refine ih within (by rw [rest, later]) ?_
    exact fun other listed => fits other (List.mem_cons_of_mem _ listed)

/-- From the start of a log whose rows fit, the loop gets to its end. -/
theorem passes_of_fits
    (fits : ∀ line ∈ logLines file, ∀ rec, parseRecord times (lineText line) = some rec →
      ∀ devices, (persistOne devices rec).fits times = true) :
    ∃ steps, ∀ rows, ∀ tables : List (List Device), tables.length = steps →
      (healthyRun times ⟨file, rows, 0, .waiting⟩ tables).phase = .reading file.length := by
  have passes : PassesFrom times file 0 := passesFrom_of_fits (Nat.zero_le _) fits
  obtain ⟨steps, reach⟩ := passes
  refine ⟨steps + 2, fun rows tables count => ?_⟩
  obtain ⟨first, afterFirst, rfl⟩ := List.exists_cons_of_length_eq_add_one count
  obtain ⟨second, rest, rfl⟩ := List.exists_cons_of_length_eq_add_one (Nat.succ.inj count)
  have opened : healthyStep times (healthyStep times ⟨file, rows, 0, .waiting⟩ first) second =
      ⟨file, rows, 0, .reading 0⟩ := rfl
  have ahead := reach (healthyStep times (healthyStep times ⟨file, rows, 0, .waiting⟩ first)
    second) (by rw [opened]) (by rw [opened]) rest (by simpa using count)
  exact ahead

/-! ## A line that is never got past -/

/-- No row of the record fits. -/
def Refused (times : TimeReader Instant) (rec : ParsedRecord Instant) : Prop :=
  ∀ devices, (persistOne devices rec).fits times = false

/-- The position ends one of the lines, or starts the first. -/
def EndsLine (lines : List (List UInt8)) (position : Nat) : Prop :=
  ∃ front back, lines = front ++ back ∧ position = front.flatten.length

/-- The phase has nothing in hand beyond the lines, but possibly a refused record. -/
def HeldBefore (times : TimeReader Instant) (lines : List (List UInt8)) :
    TailPhase Instant → Prop
  | .waiting => True
  | .resetting => True
  | .loaded offset => EndsLine lines offset
  | .reading position => EndsLine lines position
  | .parsed rec position => Refused times rec ∨ EndsLine lines position
  | .staged _ position => EndsLine lines position

/-- The ingestor has not got past the lines. -/
structure NotPast (times : TimeReader Instant) (file : List UInt8) (lines : List (List UInt8))
    (state : TailSystem Instant) : Prop where
  /-- The log. -/
  file : state.file = file
  /-- The saved offset ends one of the lines. -/
  offset : EndsLine lines state.offset
  /-- What is in hand. -/
  held : HeldBefore times lines state.phase

/-- Reading from the end of a line gives the next line, or the refused record after the last. -/
theorem readLine_heldBefore {lines rest : List (List UInt8)} {line : List UInt8}
    {rec : ParsedRecord Instant} (shape : logLines file = lines ++ line :: rest)
    (parsed : parseRecord times (lineText line) = some rec) (refused : Refused times rec)
    {position : Nat} (ends : EndsLine lines position) :
    HeldBefore times lines (TailSystem.readLine times file position) := by
  obtain ⟨front, back, rfl, rfl⟩ := ends
  rw [List.append_assoc] at shape
  have ahead := logLines_drop shape
  have taking : ∀ {next : List UInt8} {others : List (List UInt8)},
      back ++ line :: rest = next :: others →
      TailSystem.readLine times file front.flatten.length =
        TailSystem.lineRead times front.flatten.length next := by
    intro next others same
    obtain ⟨some_bytes, taken, -⟩ := logLines_cons (ahead.trans same)
    have takes : takeLine (file.drop front.flatten.length) =
        (next, (takeLine (file.drop front.flatten.length)).2) := Prod.ext taken rfl
    obtain ⟨byte, bytes, rfl⟩ := List.exists_cons_of_ne_nil some_bytes
    rw [TailSystem.readLine, takes]
  cases back with
  | nil =>
    rw [taking rfl, TailSystem.lineRead, parsed]
    exact .inl refused
  | cons next back =>
    have ends : EndsLine (front ++ next :: back) (front.flatten.length + next.length) := by
      refine ⟨front ++ [next], back, by simp, ?_⟩
      rw [List.flatten_append, List.flatten_singleton, List.length_append]
    rw [taking rfl, TailSystem.lineRead]
    cases parseRecord times (lineText next) with
    | none => exact ends
    | some other => exact .inr ends

/-- A healthy step does not get past a line whose record is refused. -/
theorem notPast_step {lines rest : List (List UInt8)} {line : List UInt8}
    {rec : ParsedRecord Instant} (shape : logLines file = lines ++ line :: rest)
    (parsed : parseRecord times (lineText line) = some rec) (refused : Refused times rec)
    {state : TailSystem Instant} (notPast : NotPast times file lines state)
    (devices : List Device) : NotPast times file lines (healthyStep times state devices) := by
  have start : EndsLine lines 0 := ⟨[], lines, rfl, rfl⟩
  obtain ⟨sameFile, offset, held⟩ := notPast
  cases phase : state.phase with
  | waiting =>
    rw [healthyStep, phase, nextLabel]
    simp only [TailSystem.step, phase]
    split
    · exact ⟨sameFile, offset, trivial⟩
    · exact ⟨sameFile, offset, offset⟩
  | resetting =>
    rw [healthyStep, phase, nextLabel]
    simp only [TailSystem.step, phase, Option.getD_some, TailSystem.commit]
    exact ⟨sameFile, start, start⟩
  | loaded position =>
    rw [phase] at held
    rw [healthyStep, phase, nextLabel]
    simp only [TailSystem.step, phase, Option.getD_some]
    exact ⟨sameFile, offset, held⟩
  | reading position =>
    rw [phase] at held
    rw [healthyStep_reading phase]
    refine ⟨sameFile, offset, ?_⟩
    rw [sameFile]
    exact readLine_heldBefore shape parsed refused held
  | parsed found position =>
    rw [phase] at held
    rw [healthyStep, phase, nextLabel]
    simp only [TailSystem.step, phase, Option.getD_some, TailSystem.persist]
    refine ⟨sameFile, offset, ?_⟩
    split
    · rename_i fits
      rcases held with never | ends
      · rw [never devices] at fits
        cases fits
      · exact ends
    · trivial
  | staged row position =>
    rw [phase] at held
    rw [healthyStep, phase, nextLabel]
    simp only [TailSystem.step, phase, Option.getD_some, TailSystem.commit]
    exact ⟨sameFile, held, held⟩

/-- A line whose record is refused is never got past: the loop does not reach the end. -/
theorem never_past_refused {line : List UInt8} {rec : ParsedRecord Instant}
    (listed : line ∈ logLines file) (parsed : parseRecord times (lineText line) = some rec)
    (refused : Refused times rec) (rows : List (AccountingRecord Instant))
    (tables : List (List Device)) :
    (healthyRun times ⟨file, rows, 0, .waiting⟩ tables).phase ≠ .reading file.length := by
  obtain ⟨lines, rest, shape⟩ := List.append_of_mem listed
  have ahead := logLines_drop shape
  have some_bytes := (logLines_cons ahead).1
  have start : EndsLine lines 0 := ⟨[], lines, rfl, rfl⟩
  have kept : ∀ (tables : List (List Device)) (state : TailSystem Instant),
      NotPast times file lines state →
        NotPast times file lines (healthyRun times state tables) := by
    intro tables
    induction tables with
    | nil => exact fun state notPast => notPast
    | cons devices tables ih =>
      intro state notPast
      exact ih _ (notPast_step shape parsed refused notPast devices)
  have notPast := kept tables ⟨file, rows, 0, .waiting⟩ ⟨rfl, start, trivial⟩
  intro reached
  have held := notPast.held
  rw [reached] at held
  obtain ⟨front, back, rfl, place⟩ := held
  have total := congrArg List.length (flatten_logLines file)
  rw [shape, List.flatten_append, List.flatten_append, List.flatten_cons, List.length_append,
    List.length_append, List.length_append] at total
  have positive := List.length_pos_iff.mpr some_bytes
  omega

/-! ## The result -/

/-- No line wedges the ingestor exactly when every line of the log is tame. -/
theorem never_wedges_iff (times : TimeReader Instant) (file : List UInt8) :
    NeverWedges times file ↔ ∀ line ∈ logLines file, TameLine times (lineText line) := by
  constructor
  · intro never line listed
    exact (insertable_iff times (lineText line)).mp (never.insertable line listed)
  · intro tame
    have insertable : ∀ line ∈ logLines file, ∀ rec,
        parseRecord times (lineText line) = some rec →
          ∀ devices, Insertable times (persistOne devices rec) :=
      fun line listed => (insertable_iff times (lineText line)).mpr (tame line listed)
    have fits : ∀ line ∈ logLines file, ∀ rec, parseRecord times (lineText line) = some rec →
        ∀ devices, (persistOne devices rec).fits times = true :=
      fun line listed rec parsed devices => (insertable line listed rec parsed devices).1
    exact ⟨insertable, passes_of_fits fits⟩

/-- An accounting record with an elapsed time of 33 bits. -/
def giantElapsedLine : List Char := "1\tn\tu\tp\tc\tk\tstop\telapsed_time=4294967296".toList

/-- The elapsed time is no 32-bit integer, so its line is retried for ever. -/
theorem giant_elapsed_time_wedges :
    ¬ NeverWedges epochTimes (logBytes [giantElapsedLine]) ∧
      ∀ rows tables, (healthyRun epochTimes ⟨logBytes [giantElapsedLine], rows, 0, .waiting⟩
        tables).phase ≠ .reading (logBytes [giantElapsedLine]).length := by
  have plain : PlainLine giantElapsedLine := ⟨by decide, by decide⟩
  have refusedRow : ((parseRecord epochTimes giantElapsedLine).map fun rec =>
      (persistOne [] rec).fits epochTimes) = some false := by decide +kernel
  obtain ⟨rec, parsed, unfit⟩ := Option.map_eq_some_iff.mp refusedRow
  have read : parseRecord epochTimes (lineText (Utf8.encode giantElapsedLine ++ [10])) =
      some rec := by
    rw [lineText_terminated plain, parseRecord_newline, parsed]
  have listed : Utf8.encode giantElapsedLine ++ [10] ∈ logLines (logBytes [giantElapsedLine]) := by
    rw [logLines_logBytes fun line inLog => List.mem_singleton.mp inLog ▸ plain]
    exact List.mem_singleton_self _
  have refused : Refused epochTimes rec := fun devices => unfit
  have stuck := never_past_refused listed read refused
  refine ⟨fun never => ?_, stuck⟩
  obtain ⟨steps, passes⟩ := never.passes
  have reached := passes [] (List.replicate steps []) List.length_replicate
  exact stuck _ _ reached

end TacacsWeb.Verif
