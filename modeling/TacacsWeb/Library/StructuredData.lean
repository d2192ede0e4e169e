import TacacsWeb.Library.Text

/-!
# Structured data of syslog messages

An element is an id and parameters in brackets: `[id name="value" ...]`. In a value, quotes,
backslashes and closing brackets stand behind a backslash. The scanner reads one element from the
front of a text; it gives back the element that was written, whatever its values hold.
-/

namespace TacacsWeb.Library.StructuredData

open TacacsWeb.Library.Text

/-! ## Elements -/

/-- A character of an id or a parameter name: printable, and none of `=`, `]` and `"`. -/
def isNameChar (char : Char) : Bool :=
  33 ≤ char.toNat && char.toNat ≤ 126 && char ≠ '=' && char ≠ ']' && char ≠ '"'

/-- An id or a parameter name. -/
def IsSdName (name : List Char) : Prop :=
  (∀ char ∈ name, isNameChar char = true) ∧ 1 ≤ name.length ∧ name.length ≤ 32

instance (name : List Char) : Decidable (IsSdName name) :=
  decidable_of_iff (name.all isNameChar = true ∧ 1 ≤ name.length ∧ name.length ≤ 32)
    (and_congr_left fun _ => List.all_eq_true)

/-- An element. -/
structure SdElement where
  /-- Its id. -/
  id : String
  /-- The names and values of its parameters, in order. -/
  params : List (String × String)
deriving DecidableEq

/-- A character that a value holds behind a backslash. -/
def isEscaped (char : Char) : Bool := char = '\\' || char = '"' || char = ']'

/-- A character of a value as it is written. -/
def escapeChar (char : Char) : List Char := if isEscaped char then ['\\', char] else [char]

/-- A parameter as it is written. -/
def writeParam (param : String × String) : List Char :=
  param.1.toList ++ ['=', '"'] ++ param.2.toList.flatMap escapeChar ++ ['"']

/-- An element as it is written. -/
def SdElement.write (element : SdElement) : List Char :=
  '[' :: element.id.toList ++ (element.params.flatMap fun param => ' ' :: writeParam param) ++ [']']

/-! ## The scanner -/

/-- Read a value up to its quote, and the text after it. A backslash before another character stands
for itself. -/
def scanValue : List Char → Option (List Char × List Char)
  | [] => none
  | char :: text =>
    if char = '"' then some ([], text)
    else if char = ']' then none
    else if char = '\\' then
      match text with
      | [] => none
      | next :: text =>
        if isEscaped next then
          (scanValue text).map fun read => (next :: read.1, read.2)
        else (scanValue (next :: text)).map fun read => (char :: read.1, read.2)
    else (scanValue text).map fun read => (char :: read.1, read.2)

/-- Read a parameter, and the text after it. -/
def scanParam (text : List Char) : Option ((String × String) × List Char) :=
  let name := text.takeWhile isNameChar
  if IsSdName name then
    match text.dropWhile isNameChar with
    | '=' :: '"' :: text =>
      (scanValue text).map fun read => ((String.ofList name, String.ofList read.1), read.2)
    | _ => none
  else none

/-- Read a number of parameters at most, up to the bracket, and the text after it. -/
def scanParams : Nat → List Char → Option (List (String × String) × List Char)
  | 0, _ => none
  | _ + 1, [] => none
  | fuel + 1, char :: text =>
    if char = ']' then some ([], text)
    else if char = ' ' then
      match scanParam text with
      | none => none
      | some (param, text) =>
        (scanParams fuel text).map fun read => (param :: read.1, read.2)
    else none

/-- Read an element, and the text after it. -/
def scanElement : List Char → Option (SdElement × List Char)
  | [] => none
  | char :: text =>
    let id := text.takeWhile isNameChar
    if char = '[' ∧ IsSdName id then
      (scanParams text.length (text.dropWhile isNameChar)).map fun read =>
        (⟨String.ofList id, read.1⟩, read.2)
    else none

/-! ## Reading what was written -/

/-- An escaped character is read back. -/
theorem scanValue_escapeChar (char : Char) (text : List Char) :
    scanValue (escapeChar char ++ text) =
      (scanValue text).map fun read => (char :: read.1, read.2) := by
  unfold escapeChar
  by_cases escaped : isEscaped char = true
  · have behind : scanValue ('\\' :: char :: text) =
        (scanValue text).map fun read => (char :: read.1, read.2) := by
      rw [scanValue.eq_def]
      simp only [escaped, if_true, Char.reduceEq, if_false]
    rw [if_pos escaped]
    exact behind
  · have plain : ¬char = '\\' ∧ ¬char = '"' ∧ ¬char = ']' := by
      simpa [isEscaped, and_assoc] using escaped
    rw [if_neg escaped, List.singleton_append, scanValue.eq_def]
    simp only [plain, if_false]

/-- A value is read back up to its quote. -/
theorem scanValue_escaped (value rest : List Char) :
    scanValue (value.flatMap escapeChar ++ '"' :: rest) = some (value, rest) := by
  induction value with
  | nil =>
    rw [List.flatMap_nil, List.nil_append, scanValue.eq_def]
    rfl
  | cons char value ih =>
    rw [List.flatMap_cons, List.append_assoc, scanValue_escapeChar, ih]
    rfl

/-- A parameter is read back. -/
theorem scanParam_write {param : String × String} (named : IsSdName param.1.toList)
    (rest : List Char) : scanParam (writeParam param ++ rest) = some (param, rest) := by
  have shape : writeParam param ++ rest =
      param.1.toList ++ '=' :: ('"' :: (param.2.toList.flatMap escapeChar ++ '"' :: rest)) := by
    simp [writeParam]
  have mark : isNameChar '=' = false := by decide
  have ends := ends_before named.1 mark
    ('"' :: (param.2.toList.flatMap escapeChar ++ '"' :: rest))
  unfold scanParam
  rw [shape, ends.1, ends.2]
  simp only [if_pos named, scanValue_escaped, Option.map_some, String.ofList_toList]

/-- Parameters are read back up to the bracket. -/
theorem scanParams_write {params : List (String × String)}
    (named : ∀ param ∈ params, IsSdName param.1.toList) {fuel : Nat}
    (enough : params.length < fuel) (rest : List Char) :
    scanParams fuel ((params.flatMap fun param => ' ' :: writeParam param) ++ ']' :: rest) =
      some (params, rest) := by
  induction params generalizing fuel with
  | nil =>
    cases fuel with
    | zero => cases enough
    | succ fuel => rfl
  | cons param params ih =>
    cases fuel with
    | zero => cases enough
    | succ fuel =>
      have others := ih (fun other listed => named other (List.mem_cons_of_mem param listed))
        (Nat.lt_of_succ_lt_succ enough)
      have first := named param List.mem_cons_self
      rw [List.flatMap_cons, List.append_assoc, List.cons_append, scanParams]
      simp only [Char.reduceEq, if_false, if_true, scanParam_write first, others, Option.map_some]

/-- There are fewer parameters than characters that they are written with. -/
theorem length_le_written (params : List (String × String)) :
    params.length ≤ (params.flatMap fun param => ' ' :: writeParam param).length := by
  induction params with
  | nil => exact Nat.le_refl 0
  | cons param params ih =>
    rw [List.flatMap_cons, List.length_append, List.length_cons, List.length_cons]
    omega

/-- An element is read back, and what follows it is left. -/
theorem scanElement_write {element : SdElement} (identified : IsSdName element.id.toList)
    (named : ∀ param ∈ element.params, IsSdName param.1.toList) (rest : List Char) :
    scanElement (element.write ++ rest) = some (element, rest) := by
  have shape : element.write ++ rest = '[' :: (element.id.toList ++
      ((element.params.flatMap fun param => ' ' :: writeParam param) ++ ']' :: rest)) := by
    simp [SdElement.write]
  have ends : ∀ text : List Char,
      text = (element.params.flatMap fun param => ' ' :: writeParam param) ++ ']' :: rest →
      (element.id.toList ++ text).takeWhile isNameChar = element.id.toList ∧
        (element.id.toList ++ text).dropWhile isNameChar = text := by
    intro text same
    -- The id ends at the space before the first parameter, or at the bracket.
    cases params : element.params with
    | nil =>
      rw [same, params]
      exact ends_before identified.1 (by decide) rest
    | cons param params =>
      rw [same, params, List.flatMap_cons, List.append_assoc, List.cons_append]
      exact ends_before identified.1 (by decide) _
  have enough : element.params.length < (element.id.toList ++
      ((element.params.flatMap fun param => ' ' :: writeParam param) ++ ']' :: rest)).length := by
    have written := length_le_written element.params
    rw [List.length_append, List.length_append, List.length_cons]
    omega
  have both := ends _ rfl
  rw [shape, scanElement]
  simp only [both.1, both.2, identified, and_self, if_true, scanParams_write named enough,
    Option.map_some, String.ofList_toList]

/-- Replacing backslashes, then quotes, then brackets escapes every character. -/
theorem replaceChar_escape (value : String) :
    (replaceChar ']' "\\]" (replaceChar '"' "\\\"" (replaceChar '\\' "\\\\" value))).toList =
      value.toList.flatMap escapeChar := by
  rw [toList_replaceChar, toList_replaceChar, toList_replaceChar]
  induction value.toList with
  | nil => rfl
  | cons char chars ih =>
    rw [List.flatMap_cons, List.flatMap_append, List.flatMap_append, ih, List.flatMap_cons]
    congr 1
    by_cases backslash : char = '\\'
    · subst backslash
      rfl
    · by_cases quote : char = '"'
      · subst quote
        rfl
      · by_cases bracket : char = ']'
        · subst bracket
          rfl
        · simp [backslash, quote, bracket, escapeChar, isEscaped]

end TacacsWeb.Library.StructuredData
