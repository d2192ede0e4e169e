import Mathlib.Data.Nat.Digits.Defs
import TacacsWeb.Library.Text
import TacacsWeb.Model.Json

/-!
# JSON texts

`json.dumps` and `json.loads` with their defaults: the writer escapes everything but printable
ASCII, and the reader takes what the grammar allows, spaces included, as well as the three constants
that are not in it. The round trip is proved for the values that the settings store: texts, and
lists and objects of them.
-/

namespace TacacsWeb.Model

open TacacsWeb.Library

namespace Json

/-! ## Writing -/

/-- `\u` and four digits. -/
def escapeUnit (unit : Nat) : List Char := '\\' :: 'u' :: Text.hexDigits 4 unit

/-- The two halves of a code point beyond the first plane, or the code point itself. -/
def units (codePoint : Nat) : List Nat :=
  if codePoint < 65536 then [codePoint]
  else [55296 + (codePoint - 65536) / 1024, 56320 + (codePoint - 65536) % 1024]

/-- The letter that stands for a code point after a backslash. -/
def shortEscape (codePoint : Nat) : Option Char :=
  if codePoint = 34 then some '"'
  else if codePoint = 92 then some '\\'
  else if codePoint = 8 then some 'b'
  else if codePoint = 12 then some 'f'
  else if codePoint = 10 then some 'n'
  else if codePoint = 13 then some 'r'
  else if codePoint = 9 then some 't'
  else none

/-- A code point as it is written. -/
def escapeCodePoint (codePoint : Nat) : List Char :=
  match shortEscape codePoint with
  | some letter => ['\\', letter]
  | none =>
    if 32 ≤ codePoint ∧ codePoint ≤ 126 then [Char.ofNat codePoint]
    else (units codePoint).flatMap escapeUnit

/-- A string as it is written. -/
def dumpString (value : PyString) : List Char :=
  '"' :: (value.codePoints.flatMap escapeCodePoint ++ ['"'])

mutual

/-- The characters of `json.dumps(value)`. -/
def dump : Json → List Char
  | .null => ['n', 'u', 'l', 'l']
  | .bool true => ['t', 'r', 'u', 'e']
  | .bool false => ['f', 'a', 'l', 's', 'e']
  | .number literal => literal.toList
  | .string value => dumpString value
  | .array [] => ['[', ']']
  | .array (first :: others) => '[' :: (dump first ++ dumpElements others)
  | .object [] => ['{', '}']
  | .object (first :: others) => '{' :: (dumpMember first ++ dumpMembers others)

/-- The elements after the first, and the end of the list. -/
def dumpElements : List Json → List Char
  | [] => [']']
  | element :: others => ',' :: ' ' :: (dump element ++ dumpElements others)

/-- One member. -/
def dumpMember : PyString × Json → List Char
  | (name, value) => dumpString name ++ ':' :: ' ' :: dump value

/-- The members after the first, and the end of the object. -/
def dumpMembers : List (PyString × Json) → List Char
  | [] => ['}']
  | member :: others => ',' :: ' ' :: (dumpMember member ++ dumpMembers others)

end

/-- `json.dumps(value)`. -/
def dumps (value : Json) : String := String.ofList (dump value)

/-! ## Reading -/

/-- The characters that JSON skips. -/
def isSpace (char : Char) : Bool := char = ' ' || char = '\t' || char = '\n' || char = '\r'

/-- What is left after the spaces. -/
def skipSpace (chars : List Char) : List Char := chars.dropWhile isSpace

/-- The value of a hexadecimal digit. -/
def hexValue (char : Char) : Option Nat :=
  if '0' ≤ char ∧ char ≤ '9' then some (char.toNat - 48)
  else if 'a' ≤ char ∧ char ≤ 'f' then some (char.toNat - 87)
  else if 'A' ≤ char ∧ char ≤ 'F' then some (char.toNat - 55)
  else none

/-- The value of four hexadecimal digits. -/
def hexUnit (first second third fourth : Char) : Option Nat := do
  let first ← hexValue first
  let second ← hexValue second
  let third ← hexValue third
  let fourth ← hexValue fourth
  some (first * 4096 + second * 256 + third * 16 + fourth)

/-- The code point that a letter stands for after a backslash. -/
def unescape (letter : Char) : Option Nat :=
  if letter = '"' then some 34
  else if letter = '\\' then some 92
  else if letter = '/' then some 47
  else if letter = 'b' then some 8
  else if letter = 'f' then some 12
  else if letter = 'n' then some 10
  else if letter = 'r' then some 13
  else if letter = 't' then some 9
  else none

/-- A unit in front of what is read after it. -/
def prepend (unit : Nat) (read : List Nat × List Char) : List Nat × List Char :=
  (unit :: read.1, read.2)

/-- A string after its opening quote: its units and what is left after the closing quote. -/
def parseString : List Char → Option (List Nat × List Char)
  | [] => none
  | char :: rest =>
    if char = '"' then some ([], rest)
    else if char = '\\' then
      match rest with
      | [] => none
      | letter :: rest =>
        if letter = 'u' then
          match rest with
          | first :: second :: third :: fourth :: rest =>
            match hexUnit first second third fourth with
            | none => none
            | some unit => (parseString rest).map (prepend unit)
          | _ => none
        else match unescape letter with
          | none => none
          | some unit => (parseString rest).map (prepend unit)
    else if char.toNat < 32 then none
    else (parseString rest).map (prepend char.toNat)

/-- Two halves that follow each other are one code point. -/
def joinSurrogates : List Nat → List Nat
  | [] => []
  | [unit] => [unit]
  | high :: low :: rest =>
    if 55296 ≤ high ∧ high ≤ 56319 ∧ 56320 ≤ low ∧ low ≤ 57343 then
      (65536 + (high - 55296) * 1024 + (low - 56320)) :: joinSurrogates rest
    else high :: joinSurrogates (low :: rest)

/-- The leading digits and what is left. -/
def digits (chars : List Char) : List Char × List Char := chars.span Char.isDigit

/-- The fraction of a number, if one follows. -/
def parseFraction : List Char → List Char × List Char
  | '.' :: rest =>
    if (digits rest).1 = [] then ([], '.' :: rest) else ('.' :: (digits rest).1, (digits rest).2)
  | chars => ([], chars)

/-- The exponent of a number, if one follows. -/
def parseExponent : List Char → List Char × List Char
  | [] => ([], [])
  | letter :: rest =>
    let signed : List Char × List Char := match rest with
      | '+' :: rest => (['+'], rest)
      | '-' :: rest => (['-'], rest)
      | rest => ([], rest)
    let read := digits signed.2
    if (letter = 'e' ∨ letter = 'E') ∧ read.1 ≠ [] then (letter :: signed.1 ++ read.1, read.2)
    else ([], letter :: rest)

/-- A number: an integer without leading zeros, a fraction and an exponent. -/
def parseNumber (chars : List Char) : Option (Json × List Char) :=
  let signed : List Char × List Char := match chars with
    | '-' :: rest => (['-'], rest)
    | chars => ([], chars)
  let whole : List Char × List Char := match signed.2 with
    | '0' :: rest => (['0'], rest)
    | rest => digits rest
  if whole.1 = [] then none
  else
    let fraction := parseFraction whole.2
    let exponent := parseExponent fraction.2
    some (.number (String.ofList (signed.1 ++ whole.1 ++ fraction.1 ++ exponent.1)), exponent.2)

/-- A constant or a number. -/
def parseWord : List Char → Option (Json × List Char)
  | 'n' :: 'u' :: 'l' :: 'l' :: rest => some (.null, rest)
  | 't' :: 'r' :: 'u' :: 'e' :: rest => some (.bool true, rest)
  | 'f' :: 'a' :: 'l' :: 's' :: 'e' :: rest => some (.bool false, rest)
  | 'N' :: 'a' :: 'N' :: rest => some (.number "NaN", rest)
  | 'I' :: 'n' :: 'f' :: 'i' :: 'n' :: 'i' :: 't' :: 'y' :: rest => some (.number "Infinity", rest)
  | '-' :: 'I' :: 'n' :: 'f' :: 'i' :: 'n' :: 'i' :: 't' :: 'y' :: rest =>
    some (.number "-Infinity", rest)
  | chars => parseNumber chars

mutual

/-- A value and what is left after it. Every step takes a character, so the number of characters
is enough fuel. -/
def parseValue : Nat → List Char → Option (Json × List Char)
  | 0, _ => none
  | fuel + 1, chars =>
    match chars with
    | '"' :: rest =>
      (parseString rest).map fun read =>
        (.string (.ofCodePoints (joinSurrogates read.1)), read.2)
    | '[' :: rest =>
      match skipSpace rest with
      | ']' :: rest => some (.array [], rest)
      | rest => (parseElements fuel rest).map fun read => (.array read.1, read.2)
    | '{' :: rest =>
      match skipSpace rest with
      | '}' :: rest => some (.object [], rest)
      | rest => (parseMembers fuel rest).map fun read => (.object read.1, read.2)
    | chars => parseWord chars

/-- The elements up to the end of the list. -/
def parseElements : Nat → List Char → Option (List Json × List Char)
  | 0, _ => none
  | fuel + 1, chars =>
    match parseValue fuel chars with
    | none => none
    | some (element, rest) =>
      match skipSpace rest with
      | ']' :: rest => some ([element], rest)
      | ',' :: rest =>
        (parseElements fuel (skipSpace rest)).map fun read => (element :: read.1, read.2)
      | _ => none

/-- The members up to the end of the object. -/
def parseMembers : Nat → List Char → Option (List (PyString × Json) × List Char)
  | 0, _ => none
  | fuel + 1, chars =>
    match chars with
    | '"' :: rest =>
      match parseString rest with
      | none => none
      | some (name, rest) =>
        match skipSpace rest with
        | ':' :: rest =>
          match parseValue fuel (skipSpace rest) with
          | none => none
          | some (value, rest) =>
            let member := (PyString.ofCodePoints (joinSurrogates name), value)
            match skipSpace rest with
            | '}' :: rest => some ([member], rest)
            | ',' :: rest =>
              (parseMembers fuel (skipSpace rest)).map fun read => (member :: read.1, read.2)
            | _ => none
        | _ => none
    | _ => none

end

/-- `json.loads(text)`, none where it raises `JSONDecodeError`. -/
def loads (text : String) : Option Json :=
  match text.toList with
  -- A byte order mark is refused before anything is read.
  | '\uFEFF' :: _ => none
  | chars =>
    match parseValue (chars.length + 1) (skipSpace chars) with
    | none => none
    | some (value, rest) => if skipSpace rest = [] then some value else none

/-! ## Strings read back -/

/-- A hexadecimal digit is read back. -/
theorem hexValue_digitChar : ∀ value < 16, hexValue (Nat.digitChar value) = some value := by
  decide

/-- Four hexadecimal digits are read back. -/
theorem hexUnit_digits {unit : Nat} (small : unit < 65536) :
    hexUnit (Nat.digitChar (unit / 4096 % 16)) (Nat.digitChar (unit / 256 % 16))
      (Nat.digitChar (unit / 16 % 16)) (Nat.digitChar (unit % 16)) = some unit := by
  have sixteen : 0 < 16 := by decide
  simp only [hexUnit, hexValue_digitChar _ (Nat.mod_lt _ sixteen), Option.bind_eq_bind,
    Option.bind_some, Option.some.injEq]
  omega

/-- A quote ends a string. -/
theorem parseString_quote (rest : List Char) : parseString ('"' :: rest) = some ([], rest) := by
  rw [parseString.eq_def]
  rfl

/-- A character that needs no escape is read as it is. -/
theorem parseString_plain {char : Char} (unquoted : char ≠ '"') (unescaped : char ≠ '\\')
    (visible : ¬char.toNat < 32) (rest : List Char) :
    parseString (char :: rest) = (parseString rest).map (prepend char.toNat) := by
  rw [parseString.eq_def]
  simp only [if_neg unquoted, if_neg unescaped, if_neg visible]

/-- A short escape is read as what it stands for. -/
theorem parseString_letter {letter : Char} {unit : Nat} (plain : letter ≠ 'u')
    (meant : unescape letter = some unit) (rest : List Char) :
    parseString ('\\' :: letter :: rest) = (parseString rest).map (prepend unit) := by
  rw [parseString.eq_def]
  simp only [Char.reduceEq, if_false, if_true, if_neg plain, meant]

/-- An escaped unit is read back. -/
theorem parseString_escapeUnit {unit : Nat} (small : unit < 65536) (rest : List Char) :
    parseString (escapeUnit unit ++ rest) = (parseString rest).map (prepend unit) := by
  have digits : Text.hexDigits 4 unit = [Nat.digitChar (unit / 4096 % 16),
      Nat.digitChar (unit / 256 % 16), Nat.digitChar (unit / 16 % 16),
      Nat.digitChar (unit / 1 % 16)] := rfl
  rw [escapeUnit, digits, Nat.div_one]
  simp only [List.cons_append, List.nil_append]
  rw [parseString]
  simp only [Char.reduceEq, if_false, if_true, hexUnit_digits small]

/-- What a letter stands for is what it was written for. -/
theorem unescape_shortEscape {codePoint : Nat} {letter : Char}
    (short : shortEscape codePoint = some letter) :
    unescape letter = some codePoint ∧ letter ≠ 'u' ∧ codePoint < 65536 := by
  unfold shortEscape at short
  repeat' split at short
  all_goals
    cases short
    try subst codePoint
    try decide

/-- The units of a code point are 16 bits wide. -/
theorem units_small {codePoint : Nat} (valid : codePoint.isValidChar) :
    ∀ unit ∈ units codePoint, unit < 65536 := by
  have bound : codePoint < 1114112 := by
    unfold Nat.isValidChar at valid
    omega
  intro unit listed
  unfold units at listed
  split at listed
  · rename_i small
    rw [List.mem_singleton.mp listed]
    exact small
  · simp only [List.mem_cons, List.not_mem_nil, or_false] at listed
    omega

/-- Units in front of what is read after them. -/
def prependAll (units : List Nat) (read : List Nat × List Char) : List Nat × List Char :=
  (units ++ read.1, read.2)

/-- Escaped units are read back. -/
theorem parseString_escapeUnits {units : List Nat} (small : ∀ unit ∈ units, unit < 65536)
    (rest : List Char) :
    parseString (units.flatMap escapeUnit ++ rest) = (parseString rest).map (prependAll units) := by
  induction units with
  | nil =>
    rw [List.flatMap_nil, List.nil_append]
    have same : prependAll [] = id := rfl
    rw [same, Option.map_id_fun, id]
  | cons unit units ih =>
    rw [List.flatMap_cons, List.append_assoc, parseString_escapeUnit (small unit (by simp)),
      ih fun later listed => small later (List.mem_cons_of_mem _ listed), Option.map_map]
    rfl

/-- An escaped code point is read back, in its units. -/
theorem parseString_escapeCodePoint {codePoint : Nat} (valid : codePoint.isValidChar)
    (rest : List Char) :
    parseString (escapeCodePoint codePoint ++ rest) =
      (parseString rest).map (prependAll (units codePoint)) := by
  unfold escapeCodePoint
  cases short : shortEscape codePoint with
  | some letter =>
    obtain ⟨back, plain, small⟩ := unescape_shortEscape short
    have one : units codePoint = [codePoint] := if_pos small
    simp only [List.cons_append, List.nil_append]
    rw [parseString_letter plain back, one]
    rfl
  | none =>
    by_cases printable : 32 ≤ codePoint ∧ codePoint ≤ 126
    · simp only [if_pos printable, List.cons_append, List.nil_append]
      have one : units codePoint = [codePoint] := if_pos (by omega)
      have number : (Char.ofNat codePoint).toNat = codePoint := by
        rw [Char.ofNat, dif_pos valid]
        rfl
      have unquoted : Char.ofNat codePoint ≠ '"' := by
        intro same
        have code : codePoint = 34 := by
          rw [← number, same]
          rfl
        rw [code] at short
        cases short
      have unescaped : Char.ofNat codePoint ≠ '\\' := by
        intro same
        have code : codePoint = 92 := by
          rw [← number, same]
          rfl
        rw [code] at short
        cases short
      have visible : ¬(Char.ofNat codePoint).toNat < 32 := by omega
      rw [parseString_plain unquoted unescaped visible, number, one]
      rfl
    · simp only [if_neg printable]
      exact parseString_escapeUnits (units_small valid) rest

/-- The units of a text are joined to its code points. -/
theorem joinSurrogates_units {codePoints : List Nat}
    (valid : ∀ codePoint ∈ codePoints, codePoint.isValidChar) :
    joinSurrogates (codePoints.flatMap units) = codePoints := by
  induction codePoints with
  | nil => rfl
  | cons codePoint codePoints ih =>
    have scalar := valid codePoint List.mem_cons_self
    have later := ih fun other listed => valid other (List.mem_cons_of_mem _ listed)
    unfold Nat.isValidChar at scalar
    rw [List.flatMap_cons]
    by_cases small : codePoint < 65536
    · have one : units codePoint = [codePoint] := if_pos small
      rw [one, List.singleton_append]
      cases following : codePoints.flatMap units with
      | nil =>
        rw [following] at later
        rw [← later]
        rfl
      | cons low rest =>
        rw [following] at later
        have single : ¬(55296 ≤ codePoint ∧ codePoint ≤ 56319 ∧ 56320 ≤ low ∧ low ≤ 57343) := by
          omega
        rw [joinSurrogates, if_neg single, later]
    · have two : units codePoint =
          [55296 + (codePoint - 65536) / 1024, 56320 + (codePoint - 65536) % 1024] := if_neg small
      rw [two]
      have high : 55296 ≤ 55296 + (codePoint - 65536) / 1024 ∧
          55296 + (codePoint - 65536) / 1024 ≤ 56319 := by omega
      have low : 56320 ≤ 56320 + (codePoint - 65536) % 1024 ∧
          56320 + (codePoint - 65536) % 1024 ≤ 57343 := by omega
      have joined : 65536 + (55296 + (codePoint - 65536) / 1024 - 55296) * 1024 +
          (56320 + (codePoint - 65536) % 1024 - 56320) = codePoint := by omega
      rw [List.cons_append, List.singleton_append, joinSurrogates,
        if_pos ⟨high.1, high.2, low.1, low.2⟩, joined, later]

/-- A text is read back. -/
theorem parseString_dump (value : String) (rest : List Char) :
    ∃ units, parseString ((PyString.codePoints (.text value)).flatMap escapeCodePoint ++
        '"' :: rest) = some (units, rest) ∧
      PyString.ofCodePoints (joinSurrogates units) = .text value := by
  have valid : ∀ codePoint ∈ PyString.codePoints (.text value), codePoint.isValidChar := by
    intro codePoint listed
    obtain ⟨char, -, same⟩ := List.mem_map.mp listed
    rw [← same]
    exact char.valid
  have read : ∀ {codePoints : List Nat}, (∀ codePoint ∈ codePoints, codePoint.isValidChar) →
      parseString (codePoints.flatMap escapeCodePoint ++ '"' :: rest) =
        some (codePoints.flatMap units, rest) := by
    intro codePoints scalars
    induction codePoints with
    | nil => exact parseString_quote rest
    | cons codePoint codePoints ih =>
      rw [List.flatMap_cons, List.append_assoc,
        parseString_escapeCodePoint (scalars codePoint List.mem_cons_self),
        ih fun other listed => scalars other (List.mem_cons_of_mem _ listed)]
      rfl
  refine ⟨_, read valid, ?_⟩
  rw [joinSurrogates_units valid, PyString.ofCodePoints_text]

/-! ## Values read back -/

/-- A value that the settings store: texts, and lists and objects of them. -/
inductive Plain : Json → Prop where
  /-- `None`. -/
  | null : Plain .null
  /-- `True` or `False`. -/
  | bool (value : Bool) : Plain (.bool value)
  /-- A text. -/
  | string (value : String) : Plain (.string (.text value))
  /-- A list. -/
  | array (elements : List Json) (each : ∀ element ∈ elements, Plain element) :
    Plain (.array elements)
  /-- A dictionary whose keys are texts. -/
  | object (members : List (PyString × Json))
      (names : ∀ member ∈ members, ∃ name, member.1 = .text name)
      (each : ∀ member ∈ members, Plain member.2) : Plain (.object members)

/-- A value is read back from its characters, with fuel for each of them. -/
def ReadsBack (value : Json) : Prop :=
  ∀ fuel rest, (dump value).length < fuel →
    parseValue fuel (dump value ++ rest) = some (value, rest)

/-- Where no space stands, none is skipped. -/
theorem skipSpace_visible {char : Char} (visible : isSpace char = false) (rest : List Char) :
    skipSpace (char :: rest) = char :: rest := by
  unfold skipSpace
  rw [List.dropWhile_cons_of_neg]
  rw [visible]
  exact Bool.false_ne_true

/-- A written value begins with a character that is no space, ends no list and marks no byte
order. -/
theorem dump_head {value : Json} (plain : Plain value) :
    ∃ char rest, dump value = char :: rest ∧ isSpace char = false ∧ char ≠ ']' ∧
      char ≠ '\uFEFF' := by
  cases plain with
  | null => exact ⟨'n', _, rfl, by decide, by decide, by decide⟩
  | bool value =>
    cases value with
    | false => exact ⟨'f', _, rfl, by decide, by decide, by decide⟩
    | true => exact ⟨'t', _, rfl, by decide, by decide, by decide⟩
  | string value => exact ⟨'"', _, rfl, by decide, by decide, by decide⟩
  | array elements each =>
    cases elements with
    | nil => exact ⟨'[', _, rfl, by decide, by decide, by decide⟩
    | cons first others => exact ⟨'[', _, rfl, by decide, by decide, by decide⟩
  | object members names each =>
    cases members with
    | nil => exact ⟨'{', _, rfl, by decide, by decide, by decide⟩
    | cons first others => exact ⟨'{', _, rfl, by decide, by decide, by decide⟩

/-- No space is skipped in front of a written value. -/
theorem skipSpace_dump {value : Json} (plain : Plain value) (rest : List Char) :
    skipSpace (dump value ++ rest) = dump value ++ rest := by
  obtain ⟨char, others, written, visible, -, -⟩ := dump_head plain
  rw [written, List.cons_append, skipSpace_visible visible]

/-- The elements of a list are read back. -/
theorem parseElements_dump {first : Json} {others : List Json}
    (plain : ∀ element ∈ first :: others, Plain element)
    (each : ∀ element ∈ first :: others, ReadsBack element) (fuel : Nat) (rest : List Char)
    (enough : (dump first ++ dumpElements others).length < fuel) :
    parseElements fuel (dump first ++ (dumpElements others ++ rest)) =
      some (first :: others, rest) := by
  induction others generalizing first fuel with
  | nil =>
    obtain ⟨fuel, rfl⟩ := Nat.exists_eq_succ_of_ne_zero (Nat.ne_zero_of_lt enough)
    simp only [dumpElements, List.length_append, List.length_cons, List.length_nil] at enough
    have one := each first List.mem_cons_self fuel ([']'] ++ rest) (by omega)
    rw [parseElements, dumpElements, one]
    rfl
  | cons second others ih =>
    obtain ⟨fuel, rfl⟩ := Nat.exists_eq_succ_of_ne_zero (Nat.ne_zero_of_lt enough)
    simp only [dumpElements, List.length_append, List.length_cons] at enough
    have one := each first List.mem_cons_self fuel
      (dumpElements (second :: others) ++ rest) (by omega)
    have tail : skipSpace (' ' :: (dump second ++ (dumpElements others ++ rest))) =
        dump second ++ (dumpElements others ++ rest) :=
      skipSpace_dump (plain second (by simp)) _
    have later := ih (fun element listed => plain element (List.mem_cons_of_mem _ listed))
      (fun element listed => each element (List.mem_cons_of_mem _ listed)) fuel
      (by rw [List.length_append]; omega)
    have spread : dumpElements (second :: others) ++ rest =
        ',' :: ' ' :: (dump second ++ (dumpElements others ++ rest)) := by
      rw [dumpElements, List.cons_append, List.cons_append, List.append_assoc]
    have comma : isSpace ',' = false := by decide
    rw [parseElements, one, spread]
    simp only [skipSpace_visible comma, tail, later, Option.map_some]

/-- One member is read back, whether it is the last one or not. -/
theorem parseMembers_member (text : String) {value : Json} (plain : Plain value) {fuel : Nat}
    {tail : List Char} (one : parseValue fuel (dump value ++ tail) = some (value, tail))
    (rest : List Char) :
    (tail = '}' :: rest → parseMembers (fuel + 1) (dumpMember (.text text, value) ++ tail) =
        some ([(.text text, value)], rest)) ∧
      (tail = ',' :: rest → parseMembers (fuel + 1) (dumpMember (.text text, value) ++ tail) =
        (parseMembers fuel (skipSpace rest)).map fun read =>
          ((.text text, value) :: read.1, read.2)) := by
  have spread : dumpMember (.text text, value) ++ tail =
      '"' :: ((PyString.codePoints (.text text)).flatMap escapeCodePoint ++
        '"' :: ':' :: ' ' :: (dump value ++ tail)) := by
    simp [dumpMember, dumpString]
  obtain ⟨units, parsed, named⟩ := parseString_dump text (':' :: ' ' :: (dump value ++ tail))
  have colon : isSpace ':' = false := by decide
  have gap : skipSpace (' ' :: (dump value ++ tail)) = dump value ++ tail :=
    skipSpace_dump plain tail
  constructor
  · intro ended
    have brace : isSpace '}' = false := by decide
    rw [spread, parseMembers]
    simp only [parsed, skipSpace_visible colon, gap, one, named]
    rw [ended, skipSpace_visible brace]
    rfl
  · intro continued
    have comma : isSpace ',' = false := by decide
    rw [spread, parseMembers]
    simp only [parsed, skipSpace_visible colon, gap, one, named]
    rw [continued, skipSpace_visible comma]
    rfl

/-- The members of an object are read back. -/
theorem parseMembers_dump {first : PyString × Json} {others : List (PyString × Json)}
    (names : ∀ member ∈ first :: others, ∃ name, member.1 = .text name)
    (plain : ∀ member ∈ first :: others, Plain member.2)
    (each : ∀ member ∈ first :: others, ReadsBack member.2) (fuel : Nat) (rest : List Char)
    (enough : (dumpMember first ++ dumpMembers others).length < fuel) :
    parseMembers fuel (dumpMember first ++ (dumpMembers others ++ rest)) =
      some (first :: others, rest) := by
  induction others generalizing first fuel with
  | nil =>
    obtain ⟨fuel, rfl⟩ := Nat.exists_eq_succ_of_ne_zero (Nat.ne_zero_of_lt enough)
    obtain ⟨text, named⟩ := names first List.mem_cons_self
    obtain ⟨name, value⟩ := first
    have same : name = .text text := named
    subst same
    simp only [dumpMember, dumpMembers, List.length_append, List.length_cons,
      List.length_nil] at enough
    have one := each _ List.mem_cons_self fuel ('}' :: rest) (by simp only; omega)
    exact (parseMembers_member text (plain _ List.mem_cons_self) one rest).1 rfl
  | cons second others ih =>
    obtain ⟨fuel, rfl⟩ := Nat.exists_eq_succ_of_ne_zero (Nat.ne_zero_of_lt enough)
    obtain ⟨text, named⟩ := names first List.mem_cons_self
    obtain ⟨name, value⟩ := first
    have same : name = .text text := named
    subst same
    have later := ih (fun member listed => names member (List.mem_cons_of_mem _ listed))
      (fun member listed => plain member (List.mem_cons_of_mem _ listed))
      (fun member listed => each member (List.mem_cons_of_mem _ listed)) fuel
      (by
        simp only [dumpMembers, List.length_append, List.length_cons] at enough ⊢
        omega)
    have quoted : ∃ chars, dumpMember second = '"' :: chars := ⟨_, by rw [dumpMember]; rfl⟩
    obtain ⟨chars, written⟩ := quoted
    have visible : isSpace '"' = false := by decide
    have space : skipSpace (' ' :: (dumpMember second ++ (dumpMembers others ++ rest))) =
        dumpMember second ++ (dumpMembers others ++ rest) := by
      rw [written]
      exact skipSpace_visible visible _
    simp only [dumpMember, dumpMembers, List.length_append, List.length_cons] at enough
    have one := each _ List.mem_cons_self fuel
      (',' :: ' ' :: (dumpMember second ++ (dumpMembers others ++ rest))) (by simp only; omega)
    have step := (parseMembers_member text (plain _ List.mem_cons_self) one _).2 rfl
    rw [dumpMembers, List.cons_append, List.cons_append, List.append_assoc, step, space, later,
      Option.map_some]

/-- A list that is not empty is read by its elements. -/
theorem parseValue_list {fuel : Nat} {char : Char} {rest : List Char}
    (visible : isSpace char = false) (more : char ≠ ']') :
    parseValue (fuel + 1) ('[' :: char :: rest) =
      (parseElements fuel (char :: rest)).map fun read => (.array read.1, read.2) := by
  rw [parseValue]
  simp only [skipSpace_visible visible]
  split
  · rename_i ended
    cases ended
    exact absurd rfl more
  · rfl

/-- Every value that the settings store is read back. -/
theorem readsBack_of_plain {value : Json} (plain : Plain value) : ReadsBack value := by
  induction plain with
  | null =>
    intro fuel rest enough
    obtain ⟨fuel, rfl⟩ := Nat.exists_eq_succ_of_ne_zero (Nat.ne_zero_of_lt enough)
    rfl
  | bool value =>
    intro fuel rest enough
    obtain ⟨fuel, rfl⟩ := Nat.exists_eq_succ_of_ne_zero (Nat.ne_zero_of_lt enough)
    cases value <;> rfl
  | string value =>
    intro fuel rest enough
    obtain ⟨fuel, rfl⟩ := Nat.exists_eq_succ_of_ne_zero (Nat.ne_zero_of_lt enough)
    obtain ⟨units, parsed, text⟩ := parseString_dump value rest
    rw [dump, dumpString, List.cons_append, List.append_assoc, List.singleton_append, parseValue,
      parsed, Option.map_some, text]
  | array elements plain each =>
    intro fuel rest enough
    obtain ⟨fuel, rfl⟩ := Nat.exists_eq_succ_of_ne_zero (Nat.ne_zero_of_lt enough)
    cases elements with
    | nil => rfl
    | cons first others =>
      simp only [dump, List.length_cons] at enough
      have read := parseElements_dump plain each fuel rest (by omega)
      obtain ⟨char, chars, written, visible, more, -⟩ := dump_head (plain first List.mem_cons_self)
      rw [dump, List.cons_append, List.append_assoc]
      rw [written, List.cons_append] at read ⊢
      rw [parseValue_list visible more, read, Option.map_some]
  | object members names plain each =>
    intro fuel rest enough
    obtain ⟨fuel, rfl⟩ := Nat.exists_eq_succ_of_ne_zero (Nat.ne_zero_of_lt enough)
    cases members with
    | nil => rfl
    | cons first others =>
      simp only [dump, List.length_cons] at enough
      have read := parseMembers_dump names plain each fuel rest (by omega)
      have quoted : ∃ chars, dumpMember first = '"' :: chars := ⟨_, by rw [dumpMember]; rfl⟩
      obtain ⟨chars, written⟩ := quoted
      have visible : isSpace '"' = false := by decide
      rw [dump, List.cons_append, List.append_assoc]
      rw [written, List.cons_append] at read ⊢
      rw [parseValue]
      simp only [skipSpace_visible visible]
      change (parseMembers fuel _).map (fun read => (Json.object read.1, read.2)) = _
      rw [read, Option.map_some]

/-- `json.loads` of what `json.dumps` writes is the value that was written. -/
theorem loads_dumps {value : Json} (plain : Plain value) : loads (dumps value) = some value := by
  obtain ⟨char, chars, written, visible, -, unmarked⟩ := dump_head plain
  have read := readsBack_of_plain plain ((dump value).length + 1) [] (Nat.lt_succ_self _)
  have start := skipSpace_dump plain []
  rw [List.append_nil] at read start
  unfold loads dumps
  rw [String.toList_ofList]
  split
  · rename_i marked
    rw [written] at marked
    cases marked
    exact absurd rfl unmarked
  · simp only [start, read]
    rfl

end Json

end TacacsWeb.Model
