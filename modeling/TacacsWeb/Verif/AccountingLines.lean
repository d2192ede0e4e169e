import TacacsWeb.Model.Accounting

/-!
# Accounting lines read back

A line holds seven fields and then the attribute-value pairs, each value between double quotes.
Tabs separate the fields and may separate the pairs too. What was logged is read back, whatever the
values hold besides tabs and line ends.
-/

namespace TacacsWeb.Verif

open TacacsWeb.Library TacacsWeb.Library.Text TacacsWeb.Model

variable {Instant : Type}

/-! ## The statement -/

/-- A text without tabs and line ends. -/
def Unbroken (text : String) : Prop := ∀ char ∈ ['\t', '\r', '\n'], char ∉ text.toList

instance (text : String) : Decidable (Unbroken text) :=
  decidable_of_iff ((['\t', '\r', '\n'].all fun char => decide (char ∉ text.toList)) = true)
    (List.all_eq_true.trans (forall₂_congr fun _ _ => decide_eq_true_iff))

/-- What the daemon logs. -/
structure Logged where
  /-- The time. -/
  ts : String
  /-- The NAS address. -/
  nas : String
  /-- The login name. -/
  user : String
  /-- The port of the session. -/
  port : String
  /-- The address of the client. -/
  nac : String
  /-- The id of the session. -/
  taskId : String
  /-- The kind of record. -/
  action : String
  /-- The attribute-value pairs, in order. -/
  pairs : List (String × String)
  /-- No field is broken. -/
  fieldsUnbroken : ∀ field ∈ [ts, nas, user, port, nac, taskId, action], Unbroken field
  /-- Every key is a name. -/
  keysNamed : ∀ pair ∈ pairs, pair.1 ≠ "" ∧ ∀ char ∈ pair.1.toList, isAvKeyChar char = true
  /-- No value is broken. -/
  valuesUnbroken : ∀ pair ∈ pairs, Unbroken pair.2

/-- A pair as a word: `key=`, and the value between double quotes. -/
def avWord (pair : String × String) : Shlex.Word := ⟨pair.1.toList ++ ['='], pair.2.toList⟩

/-- The pairs are written with tabs and spaces between them. -/
def RendersPairs (pairs : List (String × String)) (args : List Char) : Prop :=
  Shlex.Renders (fun char => char = '\t' ∨ char = ' ') (pairs.map avWord) args

/-- The line without its end. -/
def Logged.line (logged : Logged) (args : List Char) : List Char :=
  ['\t'].intercalate [logged.ts.toList, logged.nas.toList, logged.user.toList, logged.port.toList,
    logged.nac.toList, logged.taskId.toList, logged.action.toList, args]

/-- A text, none when it is empty. -/
def givenText (text : String) : Option String := if text = "" then none else some text

/-- A record says what was logged. -/
structure SaysLogged (reader : TimeReader Instant) (logged : Logged)
    (record : ParsedRecord Instant) : Prop where
  /-- The time is what the reader makes of it. -/
  ts : record.ts = parseTs reader logged.ts
  /-- The NAS address. -/
  nasIp : record.nasIp = givenText logged.nas
  /-- The login name. -/
  username : record.username = givenText logged.user
  /-- The port of the session. -/
  port : record.port = givenText logged.port
  /-- The address of the client. -/
  nacIp : record.nacIp = givenText logged.nac
  /-- The id of the session. -/
  taskId : record.taskId = givenText logged.taskId
  /-- The kind of record. -/
  action : record.action = if logged.action = "" then "unknown" else logged.action
  /-- Every key has its last value, and there are no others. -/
  avPairs : ∀ key, record.avPairs.get? key = Dict.lastValue key logged.pairs

/-! ## The pairs -/

/-- A character of a key stands for itself in a word. -/
theorem isPlain_of_isAvKeyChar {char : Char} (key : isAvKeyChar char = true) :
    Shlex.isPlain char = true := by
  simp only [Shlex.isPlain, Shlex.isWhitespace, Shlex.isQuote, Bool.and_eq_true, Bool.not_eq_true',
    Bool.or_eq_false_iff, decide_eq_false_iff_not, decide_eq_true_eq]
  refine ⟨⟨⟨⟨⟨?_, ?_⟩, ?_⟩, ?_⟩, ?_, ?_⟩, ?_⟩ <;> rintro rfl <;> revert key <;> decide

/-- A character of a key is no blank. -/
theorem isSpace_of_isAvKeyChar {char : Char} (key : isAvKeyChar char = true) :
    isSpace char = false := by
  have range : 45 ≤ char.toNat ∧ char.toNat ≤ 122 := by
    simp only [isAvKeyChar, Bool.or_eq_true, Bool.and_eq_true, decide_eq_true_eq] at key
    rcases key with ((((upper | lower) | digit) | rfl) | rfl) | rfl
    · omega
    · omega
    · omega
    · decide
    · decide
    · decide
  simp only [isSpace, Bool.or_eq_false_iff, Bool.and_eq_false_iff, decide_eq_false_iff_not]
  omega

/-- The words of the pairs are plain up to their values. -/
theorem avWord_isPlain {pair : String × String}
    (named : ∀ char ∈ pair.1.toList, isAvKeyChar char = true) : (avWord pair).IsPlain := by
  constructor
  · exact List.append_ne_nil_of_right_ne_nil _ (List.cons_ne_nil _ _)
  · intro char listed
    cases List.mem_append.mp listed with
    | inl inKey => exact isPlain_of_isAvKeyChar (named char inKey)
    | inr mark =>
      rw [List.mem_singleton.mp mark]
      decide

/-- The word of a pair is taken apart into the pair. -/
theorem avToken_avWord {pair : String × String} (given : pair.1 ≠ "")
    (named : ∀ char ∈ pair.1.toList, isAvKeyChar char = true) (unbroken : Unbroken pair.2) :
    avToken (avWord pair).text = some pair := by
  have shape : (avWord pair).text = pair.1.toList ++ '=' :: pair.2.toList := by
    simp [Shlex.Word.text, avWord]
  have mark : isAvKeyChar '=' = false := by decide
  obtain ⟨taken, dropped⟩ := ends_before named mark pair.2.toList
  have nonempty : ¬pair.1.toList = [] := by
    intro empty
    exact given (String.toList_inj.mp empty)
  have whole : restOfLine pair.2.toList = some pair.2.toList := by
    have noEnd : pair.2.toList.dropWhile (· ≠ '\n') = [] := by
      apply List.dropWhile_eq_nil_iff.mpr
      intro char listed
      apply decide_eq_true
      intro same
      exact unbroken '\n' (by simp) (same ▸ listed)
    rw [restOfLine, noEnd]
  unfold avToken
  rw [shape]
  simp only [taken, dropped, nonempty, if_false, whole, Option.map_some, String.ofList_toList]

/-- The characters of a written pair are those of its texts and three others. -/
theorem mem_avWord_write {pair : String × String} {char : Char}
    (listed : char ∈ (avWord pair).write) :
    char ∈ pair.1.toList ∨ char ∈ pair.2.toList ∨ char ∈ ['=', '"', '\\'] := by
  cases Shlex.mem_write listed with
  | inl inText =>
    have parts : char ∈ pair.1.toList ∨ char = '=' ∨ char ∈ pair.2.toList := by
      simpa [Shlex.Word.text, avWord, or_assoc] using inText
    rcases parts with inKey | rfl | inValue
    · exact .inl inKey
    · exact .inr (.inr (by simp))
    · exact .inr (.inl inValue)
  | inr mark =>
    rcases mark with rfl | rfl
    · exact .inr (.inr (by simp))
    · exact .inr (.inr (by simp))

variable {logged : Logged} {args : List Char}

/-- A written pair holds neither tabs nor line ends. -/
theorem unbroken_write {pair : String × String} (listed : pair ∈ logged.pairs) {char : Char}
    (breaks : char ∈ ['\t', '\r', '\n']) : char ∉ (avWord pair).write := by
  intro inside
  rcases mem_avWord_write inside with inKey | inValue | mark
  · have key := (logged.keysNamed pair listed).2 char inKey
    have others : ∀ other ∈ ['\t', '\r', '\n'], isAvKeyChar other = false :=
      forall_of_all (by decide)
    rw [others char breaks] at key
    cases key
  · exact logged.valuesUnbroken pair listed char breaks inValue
  · have apart : ∀ other ∈ ['\t', '\r', '\n'], other ∉ ['=', '"', '\\'] :=
      forall_of_all (by decide)
    exact apart char breaks mark

/-- The pairs hold no line ends. -/
theorem unbroken_args (rendered : RendersPairs logged.pairs args) {char : Char}
    (ends : char ∈ ['\r', '\n']) : char ∉ args := by
  intro listed
  cases rendered.mem listed with
  | inl inWord =>
    obtain ⟨word, present, inside⟩ := inWord
    obtain ⟨pair, logs, rfl⟩ := List.mem_map.mp present
    exact unbroken_write logs (List.mem_cons_of_mem '\t' ends) inside
  | inr blank =>
    have others : ∀ other ∈ ['\r', '\n'], ¬(other = '\t' ∨ other = ' ') :=
      forall_of_all (by decide)
    exact others char ends blank

/-- Written pairs neither begin nor end with a blank. -/
theorem strip_rendered {blank : Char → Prop}
    (rendered : Shlex.Renders blank (logged.pairs.map avWord) args) :
    strip (String.ofList args) = String.ofList args := by
  cases pairs : logged.pairs with
  | nil =>
    rw [pairs] at rendered
    rw [rendered.eq_nil]
    rfl
  | cons first others =>
    have given : logged.pairs.map avWord ≠ [] := by
      rw [pairs]
      exact List.cons_ne_nil _ _
    obtain ⟨⟨word, listed, rest, begins⟩, before, ends⟩ := rendered.ends given
    obtain ⟨pair, logs, rfl⟩ := List.mem_map.mp listed
    have named := logged.keysNamed pair logs
    have nonempty : pair.1.toList ≠ [] := by
      intro empty
      exact named.1 (String.toList_inj.mp empty)
    obtain ⟨head, tail, key⟩ := List.exists_cons_of_ne_nil nonempty
    have headKey := named.2 head (key ▸ List.mem_cons_self)
    have shape : (String.ofList args).toList = head :: (tail ++ ['='] ++ rest) := by
      rw [String.toList_ofList, begins]
      simp [avWord, key]
    have last : (String.ofList args).toList = before ++ ['"'] := by
      rw [String.toList_ofList, ends]
    exact strip_of_ends shape last (isSpace_of_isAvKeyChar headKey) (by decide)

/-- The pairs are read back: every key has its last value. -/
theorem parseArgs_rendered (rendered : RendersPairs logged.pairs args) :
    parseArgs args = Dict.ofList logged.pairs := by
  have kept : ∀ word ∈ logged.pairs.map avWord, ∀ char ∈ word.write,
      (if char = '\t' then ' ' else char) = char := by
    intro word listed char inside
    obtain ⟨pair, present, rfl⟩ := List.mem_map.mp listed
    apply if_neg
    intro tab
    exact @unbroken_write logged pair present char (by simp [tab]) inside
  have spaced : Shlex.Renders (fun char => char = ' ') (logged.pairs.map avWord)
      (args.map fun char => if char = '\t' then ' ' else char) := by
    apply rendered.map kept
    intro char blank
    rcases blank with rfl | rfl <;> decide
  have plain : ∀ word ∈ logged.pairs.map avWord, word.IsPlain := by
    intro word listed
    obtain ⟨pair, present, rfl⟩ := List.mem_map.mp listed
    exact avWord_isPlain (logged.keysNamed pair present).2
  have tokens := Shlex.split_rendered (by rintro char rfl; decide) spaced plain
  have stripped : strip (String.ofList (args.map fun char => if char = '\t' then ' ' else char)) =
      String.ofList (args.map fun char => if char = '\t' then ' ' else char) :=
    strip_rendered spaced
  have taken : ((logged.pairs.map avWord).map Shlex.Word.text).filterMap avToken =
      logged.pairs := by
    rw [List.map_map, List.filterMap_map]
    calc
      logged.pairs.filterMap (avToken ∘ Shlex.Word.text ∘ avWord) =
          logged.pairs.filterMap some := by
        apply List.filterMap_congr
        intro pair listed
        have named := logged.keysNamed pair listed
        exact avToken_avWord named.1 named.2 (logged.valuesUnbroken pair listed)
      _ = logged.pairs := List.filterMap_some
  unfold parseArgs
  simp only [stripped, String.toList_ofList, tokens, Option.getD_some, taken]

/-! ## The line -/

/-- The line holds no line ends. -/
theorem unbroken_line (rendered : RendersPairs logged.pairs args) {char : Char}
    (ends : char ∈ ['\r', '\n']) : char ∉ logged.line args := by
  have breaks : char ∈ ['\t', '\r', '\n'] := List.mem_cons_of_mem '\t' ends
  apply notMem_intercalate
  · have others : ∀ other ∈ ['\r', '\n'], other ∉ ['\t'] := forall_of_all (by decide)
    exact others char ends
  · intro part listed
    have cases : part = args ∨ ∃ field ∈ [logged.ts, logged.nas, logged.user, logged.port,
        logged.nac, logged.taskId, logged.action], part = field.toList := by
      simpa [or_comm, or_assoc, or_left_comm] using listed
    cases cases with
    | inl same =>
      rw [same]
      exact unbroken_args rendered ends
    | inr field =>
      obtain ⟨text, present, same⟩ := field
      rw [same]
      exact logged.fieldsUnbroken text present char breaks

/-- Split at its tabs, the line gives the fields and then the pieces of the pairs. -/
theorem splitOn_line (logged : Logged) (args : List Char) :
    (logged.line args).splitOn '\t' = logged.ts.toList :: logged.nas.toList ::
      logged.user.toList :: logged.port.toList :: logged.nac.toList :: logged.taskId.toList ::
        logged.action.toList :: args.splitOn '\t' := by
  have whole : ∀ field ∈ [logged.ts, logged.nas, logged.user, logged.port, logged.nac,
      logged.taskId, logged.action], '\t' ∉ field.toList := fun field listed =>
    logged.fieldsUnbroken field listed '\t' List.mem_cons_self
  have shape : logged.line args = logged.ts.toList ++ '\t' :: (logged.nas.toList ++
      '\t' :: (logged.user.toList ++ '\t' :: (logged.port.toList ++ '\t' :: (logged.nac.toList ++
        '\t' :: (logged.taskId.toList ++ '\t' :: (logged.action.toList ++ '\t' :: args)))))) := by
    simp [Logged.line, intercalate_cons]
  rw [shape, List.splitOn_append_cons_self_of_not_mem (whole _ (by simp)),
    List.splitOn_append_cons_self_of_not_mem (whole _ (by simp)),
    List.splitOn_append_cons_self_of_not_mem (whole _ (by simp)),
    List.splitOn_append_cons_self_of_not_mem (whole _ (by simp)),
    List.splitOn_append_cons_self_of_not_mem (whole _ (by simp)),
    List.splitOn_append_cons_self_of_not_mem (whole _ (by simp)),
    List.splitOn_append_cons_self_of_not_mem (whole _ (by simp))]

/-- A field that is empty is none. -/
theorem textOrNone_toList (text : String) : textOrNone text.toList = givenText text := by
  unfold textOrNone givenText
  rw [String.ofList_toList]
  congr 1
  exact propext String.toList_eq_nil_iff

/-- A default stands for an empty text. -/
theorem givenText_getD (text default : String) :
    (givenText text).getD default = if text = "" then default else text := by
  unfold givenText
  split <;> rfl

/-- The record of a logged line. -/
def loggedRecord (reader : TimeReader Instant) (logged : Logged) : ParsedRecord Instant where
  ts := parseTs reader logged.ts
  nasIp := givenText logged.nas
  username := givenText logged.user
  port := givenText logged.port
  nacIp := givenText logged.nac
  taskId := givenText logged.taskId
  action := (givenText logged.action).getD "unknown"
  avPairs := Dict.ofList logged.pairs

/-- A logged line is read as its record. -/
theorem parseRecord_line (reader : TimeReader Instant)
    (rendered : RendersPairs logged.pairs args) :
    parseRecord reader (logged.line args) = some (loggedRecord reader logged) := by
  have noFeed := dropEndWhile_of_notMem (@unbroken_line logged args rendered '\n' (by simp))
  have noReturn := dropEndWhile_of_notMem (@unbroken_line logged args rendered '\r' (by simp))
  have nonempty : ¬logged.line args = [] := by
    intro empty
    have split := splitOn_line logged args
    rw [empty, List.splitOn_nil] at split
    have tail := (List.cons.inj split).2
    cases tail
  obtain ⟨argsRaw, extras, pieces⟩ := List.exists_cons_of_ne_nil (List.splitOn_ne_nil '\t' args)
  have joined : ['\t'].intercalate (argsRaw :: extras) = args := by
    rw [← pieces, List.intercalate_splitOn]
  have split := splitOn_line logged args
  rw [pieces] at split
  unfold parseRecord
  simp only [noFeed, noReturn, nonempty, if_false, split, joined, textOrNone_toList,
    String.ofList_toList, parseArgs_rendered rendered, loggedRecord]

/-- A logged line, with or without a line end, is read as a record that says what was logged. -/
theorem parseRecord_logged (reader : TimeReader Instant)
    (rendered : RendersPairs logged.pairs args) :
    ∃ record, SaysLogged reader logged record ∧
      parseRecord reader (logged.line args) = some record ∧
      parseRecord reader (logged.line args ++ ['\n']) = some record := by
  have parsed := parseRecord_line reader rendered
  refine ⟨loggedRecord reader logged, ⟨rfl, rfl, rfl, rfl, rfl, rfl, ?_, ?_⟩, parsed, ?_⟩
  · exact givenText_getD logged.action "unknown"
  · exact Dict.get?_ofList logged.pairs
  · rw [parseRecord_newline, parsed]

/-- What a console logs: some fields are empty, a key comes twice and the values hold quotes,
backslashes, spaces and equals signs. -/
def consoleLogged : Logged where
  ts := "1716224400"
  nas := "10.0.0.1"
  user := "jan"
  port := ""
  nac := ""
  taskId := "0a"
  action := ""
  pairs := [("cmd", "show"), ("service", "she ll"), ("cmd", "a=\"b\\ c")]
  fieldsUnbroken := by decide
  keysNamed := by
    simp only [List.forall_mem_cons]
    exact ⟨⟨by decide, forall_of_all (by decide)⟩, ⟨by decide, forall_of_all (by decide)⟩,
      ⟨by decide, forall_of_all (by decide)⟩, fun _ listed => absurd listed List.not_mem_nil⟩
  valuesUnbroken := by decide

/-- Its pairs, with a tab and then two blanks between them. -/
def consoleArgs : List Char := "cmd=\"show\"\tservice=\"she ll\" \tcmd=\"a=\\\"b\\\\ c\"".toList

/-- The arguments are a rendering of the pairs. -/
theorem consoleArgs_rendered : RendersPairs consoleLogged.pairs consoleArgs := by
  have last : RendersPairs [("cmd", "a=\"b\\ c")] (avWord ("cmd", "a=\"b\\ c")).write :=
    .last (avWord ("cmd", "a=\"b\\ c"))
  have second := @Shlex.Renders.cons (fun char => char = '\t' ∨ char = ' ')
    (avWord ("service", "she ll")) _ _ [' ', '\t'] (by decide) (by simp) (by simp) last
  have first := @Shlex.Renders.cons (fun char => char = '\t' ∨ char = ' ')
    (avWord ("cmd", "show")) _ _ ['\t'] (by decide) (by simp) (by simp) second
  exact first

/-- Times in seconds, where only seconds are read. -/
def secondsReader : TimeReader Int := ⟨Char.isDigit, some, fun _ _ => none, fun _ => true⟩

/-- The line of the console is read back. -/
theorem parseRecord_console :
    ∃ record, SaysLogged secondsReader consoleLogged record ∧
      parseRecord secondsReader (consoleLogged.line consoleArgs) = some record ∧
      parseRecord secondsReader (consoleLogged.line consoleArgs ++ ['\n']) = some record :=
  parseRecord_logged secondsReader consoleArgs_rendered

end TacacsWeb.Verif
