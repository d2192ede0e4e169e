import Mathlib.Data.List.Basic

/-!
# Python text operations

The string methods of Python that the modelled code calls, over Lean strings read as lists
of characters.
-/

namespace TacacsWeb.Library.Text

/-- `text.replace(old, new)` for a single character. -/
def replaceChar (old : Char) (new : String) (text : String) : String :=
  String.ofList (text.toList.flatMap fun char => if char = old then new.toList else [char])

/-- The characters that `str.strip()` removes. -/
def isSpace (char : Char) : Bool :=
  let code := char.toNat
  9 ≤ code && code ≤ 13 || 28 ≤ code && code ≤ 32 || code = 133 || code = 160 || code = 5760 ||
    8192 ≤ code && code ≤ 8202 || code = 8232 || code = 8233 || code = 8239 || code = 8287 ||
    code = 12288

/-- `chars.rstrip()` for the characters that meet a test. -/
def dropEndWhile (test : Char → Bool) (chars : List Char) : List Char :=
  (chars.reverse.dropWhile test).reverse

/-- `text.strip()`. -/
def strip (text : String) : String :=
  String.ofList (dropEndWhile isSpace (text.toList.dropWhile isSpace))

/-- `text.startswith(start)`. -/
def startsWith (start text : String) : Bool := start.toList.isPrefixOf text.toList

/-- The last digits of a number in base sixteen, in lower case. -/
def hexDigits (count value : Nat) : List Char :=
  (List.range count).map fun place => Nat.digitChar (value / Nat.pow 16 (count - 1 - place) % 16)

/-- The escape of one character in a `repr` with the given quote. -/
def reprChar (printable : Char → Bool) (quote char : Char) : List Char :=
  let code := char.toNat
  if char = quote ∨ char = '\\' then ['\\', char]
  else if char = '\t' then ['\\', 't']
  else if char = '\n' then ['\\', 'n']
  else if char = '\r' then ['\\', 'r']
  else if code < 32 ∨ code = 127 then '\\' :: 'x' :: hexDigits 2 code
  else if code < 127 ∨ printable char then [char]
  else if code ≤ 0xff then '\\' :: 'x' :: hexDigits 2 code
  else if code ≤ 0xffff then '\\' :: 'u' :: hexDigits 4 code
  else '\\' :: 'U' :: hexDigits 8 code

/-- `repr(text)`, for the characters beyond ASCII that `str.isprintable` accepts. -/
def pyRepr (printable : Char → Bool) (text : String) : String :=
  let quote := if '\'' ∈ text.toList ∧ '"' ∉ text.toList then '"' else '\''
  String.ofList (quote :: text.toList.flatMap (reprChar printable quote) ++ [quote])

/-- A text that neither begins nor ends with a blank is not stripped. -/
theorem strip_of_ends {first last : Char} {rest before : List Char} {text : String}
    (begins : text.toList = first :: rest) (ends : text.toList = before ++ [last])
    (firstVisible : isSpace first = false) (lastVisible : isSpace last = false) :
    strip text = text := by
  have front : text.toList.dropWhile isSpace = text.toList := by
    rw [begins, List.dropWhile_cons_of_neg (by simp [firstVisible])]
  have back : dropEndWhile isSpace text.toList = text.toList := by
    rw [ends, dropEndWhile, List.reverse_append, List.reverse_singleton, List.singleton_append,
      List.dropWhile_cons_of_neg (by simp [lastVisible]), List.reverse_cons, List.reverse_reverse]
  rw [strip, front, back, String.ofList_toList]

/-- Characters that are not dropped anywhere are not dropped at the end. -/
theorem dropEndWhile_of_notMem {char : Char} {chars : List Char} (absent : char ∉ chars) :
    dropEndWhile (· = char) chars = chars := by
  cases reversed : chars.reverse with
  | nil =>
    rw [List.reverse_eq_nil_iff.mp reversed]
    rfl
  | cons last others =>
    have other : last ≠ char := by
      intro same
      apply absent
      rw [← List.mem_reverse, reversed, same]
      exact List.mem_cons_self
    rw [dropEndWhile, reversed, List.dropWhile_cons_of_neg (by simp [other]), ← reversed,
      List.reverse_reverse]

/-- No digit is a NUL. -/
theorem nul_notMem_hexDigits (count value : Nat) : '\x00' ∉ hexDigits count value := by
  intro listed
  obtain ⟨place, _, same⟩ := List.mem_map.mp listed
  have small : ∀ digit < 16, Nat.digitChar digit ≠ '\x00' := by decide
  exact small _ (Nat.mod_lt _ (by decide)) same

/-- The escape of a character holds no NUL. -/
theorem nul_notMem_reprChar (printable : Char → Bool) {quote : Char} (quoted : quote ≠ '\x00')
    (char : Char) : '\x00' ∉ reprChar printable quote char := by
  have digits := nul_notMem_hexDigits
  rw [reprChar]
  split
  · rename_i escaped
    rcases escaped with rfl | rfl
    · simp [quoted.symm]
    · decide
  split
  · decide
  split
  · decide
  split
  · decide
  split
  · simp [digits]
  split
  · rename_i _ _ _ _ low _
    have other : char ≠ '\x00' := fun same => low (.inl (same ▸ (by decide)))
    simp [other.symm]
  split
  · simp [digits]
  split <;> simp [digits]

/-- A `repr` holds no NUL. -/
theorem nul_notMem_pyRepr (printable : Char → Bool) (text : String) :
    '\x00' ∉ (pyRepr printable text).toList := by
  have quoted : ∀ {condition : Prop} [Decidable condition],
      (if condition then '"' else '\'') ≠ '\x00' := by
    intro condition _
    split <;> decide
  intro listed
  simp only [pyRepr, String.toList_ofList, List.cons_append, List.mem_cons, List.mem_append,
    List.mem_flatMap, List.not_mem_nil, or_false] at listed
  rcases listed with first | ⟨char, _, inside⟩ | last
  · exact quoted first.symm
  · exact nul_notMem_reprChar printable quoted char inside
  · exact quoted last.symm

/-- What is in no part and not in the separator is not in the parts with separators between. -/
theorem notMem_intercalate {char : Char} {separator : List Char} {parts : List (List Char)}
    (separated : char ∉ separator) (clean : ∀ part ∈ parts, char ∉ part) :
    char ∉ separator.intercalate parts := by
  induction parts with
  | nil => simp
  | cons first rest ih =>
    have head : char ∉ first := clean first List.mem_cons_self
    have tail := ih fun part listed => clean part (List.mem_cons_of_mem _ listed)
    cases rest with
    | nil => simpa using head
    | cons second others => simp [List.intercalate_cons_cons, head, separated, tail]

/-- Every part stands somewhere among the parts with separators between. -/
theorem exists_around_of_mem {separator part : List Char} {parts : List (List Char)}
    (listed : part ∈ parts) :
    ∃ before after, separator.intercalate parts = before ++ part ++ after := by
  induction parts with
  | nil => cases listed
  | cons first rest ih =>
    cases rest with
    | nil =>
      have same := List.mem_singleton.mp listed
      exact ⟨[], [], by simp [same]⟩
    | cons second others =>
      rw [List.intercalate_cons_cons]
      cases listed with
      | head => exact ⟨[], separator ++ separator.intercalate (second :: others), by simp⟩
      | tail _ listed =>
        obtain ⟨before, after, around⟩ := ih listed
        exact ⟨first ++ separator ++ before, after, by simp [around]⟩

/-- Parts with separators between them are the first part and then the others, each behind a
separator. -/
theorem intercalate_cons {Item : Type} (separator first : List Item) (rest : List (List Item)) :
    separator.intercalate (first :: rest) = first ++ rest.flatMap fun part => separator ++ part := by
  induction rest generalizing first with
  | nil => simp
  | cons second rest ih =>
    rw [List.intercalate_cons_cons, ih, List.flatMap_cons]
    simp only [List.append_assoc]

/-- The items that meet a test end where one follows that does not. -/
theorem ends_before {Item : Type} {test : Item → Bool} {items : List Item}
    (meet : ∀ item ∈ items, test item = true) {next : Item} (other : test next = false)
    (rest : List Item) :
    (items ++ next :: rest).takeWhile test = items ∧
      (items ++ next :: rest).dropWhile test = next :: rest := by
  have stops : ¬test next = true := by simp [other]
  constructor
  · rw [List.takeWhile_append_of_pos meet, List.takeWhile_cons_of_neg stops, List.append_nil]
  · rw [List.dropWhile_append_of_pos meet, List.dropWhile_cons_of_neg stops]

/-- Characters without a separator end at the separator. -/
theorem ends_before_separator {separator : Char} {chars : List Char} (absent : separator ∉ chars)
    (rest : List Char) :
    (chars ++ separator :: rest).takeWhile (· ≠ separator) = chars ∧
      (chars ++ separator :: rest).dropWhile (· ≠ separator) = separator :: rest := by
  apply ends_before
  · intro char listed
    apply decide_eq_true
    intro same
    exact absent (same ▸ listed)
  · exact decide_eq_false (not_not_intro rfl)

/-- Replacing a character, character by character. -/
theorem toList_replaceChar (old : Char) (new text : String) :
    (replaceChar old new text).toList =
      text.toList.flatMap fun char => if char = old then new.toList else [char] := by
  rw [replaceChar, String.toList_ofList]

/-! ## Lines -/

/-- The lines of a text read to its end, split at LF only and without their line ends. -/
def readLines (text : String) : List String :=
  let pieces := text.toList.splitOn '\n'
  -- Nothing is read after the last line end.
  (if pieces.getLast? = some [] then pieces.dropLast else pieces).map String.ofList

/-- The text of lines, each with its line end. -/
def joinLines (lines : List String) : String :=
  String.ofList (lines.flatMap fun line => line.toList ++ ['\n'])

/-- What a test finds of each of some characters. A decision of the quantifier itself would go
through every character where characters are known to be finitely many. -/
theorem forall_of_all {holds : Char → Prop} [DecidablePred holds] {chars : List Char}
    (all : (chars.all fun char => decide (holds char)) = true) : ∀ char ∈ chars, holds char :=
  fun char listed => of_decide_eq_true (List.all_eq_true.mp all char listed)

/-- A letter or a digit by its code. -/
theorem isAlphanum_iff {char : Char} :
    char.isAlphanum = true ↔
      48 ≤ char.toNat ∧ char.toNat ≤ 57 ∨ 65 ≤ char.toNat ∧ char.toNat ≤ 90 ∨
        97 ≤ char.toNat ∧ char.toNat ≤ 122 := by
  have upper : char.isUpper = true ↔ 65 ≤ char.toNat ∧ char.toNat ≤ 90 := by
    apply Iff.trans (decide_eq_true_eq.to_iff)
    exact Iff.rfl
  have lower : char.isLower = true ↔ 97 ≤ char.toNat ∧ char.toNat ≤ 122 := by
    apply Iff.trans (Bool.and_eq_true _ _).to_iff
    exact Iff.and decide_eq_true_eq.to_iff decide_eq_true_eq.to_iff
  have digit : char.isDigit = true ↔ 48 ≤ char.toNat ∧ char.toNat ≤ 57 := Char.isDigit_iff_toNat
  have alphanum : char.isAlphanum = true ↔
      (char.isUpper = true ∨ char.isLower = true) ∨ char.isDigit = true := by
    apply Iff.trans (Bool.or_eq_true _ _).to_iff
    exact or_congr_left (Bool.or_eq_true _ _).to_iff
  rw [alphanum, upper, lower, digit]
  omega

/-- Parts without the separator, each ended by it, split where they end. -/
theorem splitOn_ended {Item : Type} [DecidableEq Item] {separator : Item} {parts : List (List Item)}
    (whole : ∀ part ∈ parts, separator ∉ part) :
    (parts.flatMap fun part => part ++ [separator]).splitOn separator = parts ++ [[]] := by
  induction parts with
  | nil => rfl
  | cons part parts ih =>
    have first := whole part List.mem_cons_self
    have rest := ih fun other listed => whole other (List.mem_cons_of_mem _ listed)
    rw [List.flatMap_cons, List.append_assoc, List.singleton_append,
      List.splitOn_append_cons_self_of_not_mem first, rest, List.cons_append]

/-- Lines without LF split where they were joined. -/
theorem splitOn_joinLines {lines : List String} (whole : ∀ line ∈ lines, '\n' ∉ line.toList) :
    (joinLines lines).toList.splitOn '\n' = lines.map String.toList ++ [[]] := by
  have parts : ∀ part ∈ lines.map String.toList, '\n' ∉ part := by
    intro part listed
    obtain ⟨line, present, same⟩ := List.mem_map.mp listed
    rw [← same]
    exact whole line present
  have split := splitOn_ended parts
  rw [List.flatMap_map] at split
  rw [joinLines, String.toList_ofList]
  exact split

/-- Parts that are put together and then ended are parts ended one by one. -/
theorem intercalate_ended {Item : Type} {separator : Item} {parts : List (List Item)}
    (nonempty : parts ≠ []) :
    [separator].intercalate parts ++ [separator] =
      parts.flatMap fun part => part ++ [separator] := by
  induction parts with
  | nil => exact absurd rfl nonempty
  | cons first rest ih =>
    cases rest with
    | nil => simp
    | cons second others =>
      have later := ih (List.cons_ne_nil second others)
      rw [List.intercalate_cons_cons, List.append_assoc, later]
      rfl

/-- Lines without LF are read as they were joined. -/
theorem readLines_joinLines {lines : List String} (whole : ∀ line ∈ lines, '\n' ∉ line.toList) :
    readLines (joinLines lines) = lines := by
  rw [readLines, splitOn_joinLines whole]
  simp [Function.comp_def]

/-- Replacing one character by another and back is the identity without the other. -/
theorem replaceChar_replaceChar {old new : Char} {text : String} (absent : new ∉ text.toList) :
    replaceChar new (String.singleton old) (replaceChar old (String.singleton new) text) =
      text := by
  have back : ∀ chars : List Char, new ∉ chars →
      (chars.flatMap fun char => if char = old then [new] else [char]).flatMap
        (fun char => if char = new then [old] else [char]) = chars := by
    intro chars absent
    induction chars with
    | nil => rfl
    | cons first rest ih =>
      rw [List.mem_cons, not_or] at absent
      rw [List.flatMap_cons, List.flatMap_append, ih absent.2]
      by_cases same : first = old
      · simp [same]
      · simp [same, Ne.symm absent.1]
  simp only [replaceChar, String.toList_ofList, String.toList_singleton, back _ absent,
    String.ofList_toList]

/-- A replaced character does not occur in the result. -/
theorem notMem_replaceChar {old new : Char} (different : old ≠ new) (text : String) :
    old ∉ (replaceChar old (String.singleton new) text).toList := by
  rw [replaceChar, String.toList_ofList, List.mem_flatMap]
  rintro ⟨char, -, inside⟩
  split at inside
  · exact different (by simpa using inside)
  · rename_i other
    exact other (List.mem_singleton.mp inside).symm

/-! ## Integers -/

/-- The zeros of the runs of ten decimal digits beyond ASCII in Unicode 14, which Python 3.11 has. -/
def decimalZeros14 : List Nat :=
  [1632, 1776, 1984, 2406, 2534, 2662, 2790, 2918, 3046, 3174, 3302, 3430, 3558, 3664, 3792,
    3872, 4160, 4240, 6112, 6160, 6470, 6608, 6784, 6800, 6992, 7088, 7232, 7248, 42528, 43216,
    43264, 43472, 43504, 43600, 44016, 65296, 66720, 68912, 69734, 69872, 69942, 70096, 70384,
    70736, 70864, 71248, 71360, 71472, 71904, 72016, 72784, 73040, 73120, 92768, 92864, 93008,
    120782, 120792, 120802, 120812, 120822, 123200, 123632, 125264, 130032]

/-- Unicode 15 adds the digits of Kawi and of Nag Mundari; Python 3.13 has them. -/
def decimalZeros15 : List Nat := decimalZeros14 ++ [73552, 124144]

/-- The value of a decimal digit, ASCII or behind one of the zeros. -/
def decimalDigit (zeros : List Nat) (char : Char) : Option Nat :=
  ((48 :: zeros).find? fun first => first ≤ char.toNat && char.toNat < first + 10).map fun first =>
    char.toNat - first

/-- Decimal digits with single underscores between them. -/
def intDigits (zeros : List Nat) : List Char → Option (List Nat)
  | [] => none
  | [char] => (decimalDigit zeros char).map fun digit => [digit]
  | char :: next :: rest =>
    (decimalDigit zeros char).bind fun digit =>
      (if next = '_' then intDigits zeros rest else intDigits zeros (next :: rest)).map fun digits =>
        digit :: digits

/-- The characters that `int()` skips at both ends: the ASCII separators are not among them. -/
def isIntSpace (char : Char) : Bool := isSpace char && !(28 ≤ char.toNat && char.toNat ≤ 31)

/-- The digits of a literal read in base ten, at most 4300 of them. -/
def intMagnitude (zeros : List Nat) (chars : List Char) : Option Nat :=
  match intDigits zeros chars with
  | none => none
  | some digits =>
    if digits.length ≤ 4300 then some (digits.foldl (fun value digit => 10 * value + digit) 0)
    else none

/-- `int(text)` under a table of digits, none where it raises `ValueError`. -/
def parseIntIn (zeros : List Nat) (text : String) : Option Int :=
  match dropEndWhile isIntSpace (text.toList.dropWhile isIntSpace) with
  | '-' :: digits => (intMagnitude zeros digits).map fun value => -(value : Int)
  | '+' :: digits => (intMagnitude zeros digits).map fun value => (value : Int)
  | digits => (intMagnitude zeros digits).map fun value => (value : Int)

/-- `int(text)` in Python 3.13, which runs the backend. -/
def parseInt (text : String) : Option Int := parseIntIn decimalZeros15 text

/-- `int(text)` in Python 3.11, which runs the MAVIS child. -/
def parseInt311 (text : String) : Option Int := parseIntIn decimalZeros14 text

/-- `str(value)`, none where it raises `ValueError`: more than 4300 digits. -/
def formatInt (value : Int) : Option String :=
  if value.natAbs.repr.length ≤ 4300 then some (toString value) else none

end TacacsWeb.Library.Text
