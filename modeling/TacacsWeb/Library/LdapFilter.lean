import TacacsWeb.Library.Text
import TacacsWeb.Library.Utf8

/-!
# Search filters of LDAP

The text of a filter, by RFC 4515: a filter stands in parentheses, and an assertion value holds
parentheses, asterisks, NULs and backslashes only as a backslash and two hexadecimal digits, which
denote a byte. The reader takes the whole text or nothing; it gives back the extensible match that
was written, whatever its value holds.
-/

namespace TacacsWeb.Library.LdapFilter

open TacacsWeb.Library

/-! ## Filters -/

/-- How a simple item compares. -/
inductive Comparison where
  /-- `=`. -/
  | equal
  /-- `~=`. -/
  | approx
  /-- `>=`. -/
  | greaterOrEqual
  /-- `<=`. -/
  | lessOrEqual
deriving DecidableEq

/-- A filter. Assertion values are bytes. -/
inductive Filter where
  /-- All of some filters. -/
  | conjunction (filters : List Filter)
  /-- One of some filters. -/
  | disjunction (filters : List Filter)
  /-- Not a filter. -/
  | negation (filter : Filter)
  /-- A comparison of an attribute with a value. -/
  | simple (attr : String) (comparison : Comparison) (value : List UInt8)
  /-- The attribute is present. -/
  | present (attr : String)
  /-- The attribute has these parts, with anything between them. -/
  | substrings (attr : String) (parts : List (List UInt8))
  /-- An extensible match: the attribute, whether the DN counts, the rule and the value. -/
  | extensible (attr : Option String) (dnAttributes : Bool) (matchingRule : Option String)
    (value : List UInt8)

/-! ## Names -/

/-- A letter of ASCII. -/
def isLetter (char : Char) : Bool :=
  65 ≤ char.toNat && char.toNat ≤ 90 || 97 ≤ char.toNat && char.toNat ≤ 122

/-- A digit of ASCII. -/
def isDigit (char : Char) : Bool := 48 ≤ char.toNat && char.toNat ≤ 57

/-- A letter, a digit or a hyphen. -/
def isKeyChar (char : Char) : Bool := isLetter char || isDigit char || char = '-'

/-- A character of an attribute description or of an object identifier. -/
def isNameChar (char : Char) : Bool := isKeyChar char || char = '.' || char = ';'

/-- A short name: a letter, then letters, digits and hyphens. -/
def isDescr : List Char → Bool
  | [] => false
  | first :: others => isLetter first && others.all isKeyChar

/-- Decimal digits without leading zeros. -/
def isNumber : List Char → Bool
  | [] => false
  | [digit] => isDigit digit
  | first :: others => isDigit first && first ≠ '0' && others.all isDigit

/-- Numbers with dots between them, two at least. -/
def isNumericOid (name : List Char) : Bool :=
  let numbers := name.splitOn '.'
  2 ≤ numbers.length && numbers.all isNumber

/-- An object identifier. -/
def isOid (name : List Char) : Bool := isDescr name || isNumericOid name

/-- An attribute description: an object identifier and options, behind semicolons. -/
def isAttribute (name : List Char) : Bool :=
  match name.splitOn ';' with
  | [] => false
  | type :: options => isOid type && options.all fun option => option ≠ [] && option.all isKeyChar

/-! ## Values -/

/-- A character that a value holds only by its code. -/
def isSpecial (char : Char) : Bool :=
  char = '\x00' || char = '(' || char = ')' || char = '*' || char = '\\'

/-- The value of a hexadecimal digit. -/
def hexValue (char : Char) : Option Nat :=
  if isDigit char then some (char.toNat - 48)
  else if 65 ≤ char.toNat ∧ char.toNat ≤ 70 then some (char.toNat - 55)
  else if 97 ≤ char.toNat ∧ char.toNat ≤ 102 then some (char.toNat - 87)
  else none

/-- The bytes that a value denotes: a backslash and two digits denote a byte, and every other
character itself. -/
def decodeValue : List Char → Option (List UInt8)
  | [] => some []
  | char :: text =>
    if char = '\\' then
      match text with
      | high :: low :: text =>
        match hexValue high, hexValue low with
        | some high, some low =>
          (decodeValue text).map fun bytes => UInt8.ofNat (16 * high + low) :: bytes
        | _, _ => none
      | _ => none
    else if isSpecial char then none
    else (decodeValue text).map fun bytes => String.utf8EncodeChar char ++ bytes

/-! ## The reader -/

/-- Read the value of a simple item with an equals sign: asterisks in it leave parts open. -/
def readEqual (attr : String) (value : List Char) : Option Filter :=
  if value = ['*'] then some (.present attr)
  else if '*' ∈ value then
    ((value.splitOn '*').mapM decodeValue).map fun parts => .substrings attr parts
  else (decodeValue value).map fun value => .simple attr .equal value

/-- Read what follows the name and the colon of an extensible match. -/
def readExtensible (attr : Option String) (text : List Char) : Option Filter :=
  let dnAttributes := (text.take 3).map Char.toLower = ['d', 'n', ':']
  let text := if dnAttributes then text.drop 3 else text
  let rule := text.takeWhile isNameChar
  match text.dropWhile isNameChar with
  | '=' :: value =>
    if rule = [] ∧ attr.isSome then
      (decodeValue value).map fun value => .extensible attr dnAttributes none value
    else none
  | ':' :: '=' :: value =>
    if isOid rule then
      (decodeValue value).map fun value =>
        .extensible attr dnAttributes (some (String.ofList rule)) value
    else none
  | _ => none

/-- Read an item, which is all of a text without parentheses. -/
def readItem (text : List Char) : Option Filter :=
  let name := text.takeWhile isNameChar
  let attr := String.ofList name
  let simple := fun comparison value =>
    if isAttribute name then (decodeValue value).map fun value => .simple attr comparison value
    else none
  match text.dropWhile isNameChar with
  | '=' :: value => if isAttribute name then readEqual attr value else none
  | '~' :: '=' :: value => simple .approx value
  | '>' :: '=' :: value => simple .greaterOrEqual value
  | '<' :: '=' :: value => simple .lessOrEqual value
  | ':' :: text =>
    if name = [] then readExtensible none text
    else if isAttribute name then readExtensible (some attr) text
    else none
  | _ => none

mutual

/-- Read a filter, and the text after it. -/
def readFilter : Nat → List Char → Option (Filter × List Char)
  | fuel + 1, '(' :: '&' :: text =>
    (readFilters fuel text).bind fun read =>
      if read.1.isEmpty then none else some (.conjunction read.1, read.2)
  | fuel + 1, '(' :: '|' :: text =>
    (readFilters fuel text).bind fun read =>
      if read.1.isEmpty then none else some (.disjunction read.1, read.2)
  | fuel + 1, '(' :: '!' :: text =>
    match readFilter fuel text with
    | some (filter, ')' :: rest) => some (.negation filter, rest)
    | _ => none
  | _ + 1, '(' :: text =>
    match text.dropWhile (· ≠ ')') with
    | ')' :: rest => (readItem (text.takeWhile (· ≠ ')'))).map fun item => (item, rest)
    | _ => none
  | _, _ => none

/-- Read filters up to a closing parenthesis, and the text after it. -/
def readFilters : Nat → List Char → Option (List Filter × List Char)
  | 0, _ => none
  | _ + 1, ')' :: text => some ([], text)
  | fuel + 1, text =>
    match readFilter fuel text with
    | none => none
    | some (filter, text) =>
      (readFilters fuel text).map fun read => (filter :: read.1, read.2)

end

/-- The filter that a text is. -/
def parse (text : List Char) : Option Filter :=
  match readFilter text.length text with
  | some (filter, []) => some filter
  | _ => none

/-! ## Writing a value -/

/-- A character of a value as it is written. -/
def escapeChar (char : Char) : List Char :=
  if isSpecial char then '\\' :: Text.hexDigits 2 char.toNat else [char]

/-- A value as it is written. -/
def escapeValue (value : List Char) : List Char := value.flatMap escapeChar

/-! ## Reading what was written -/

/-- A special character is written with two digits, which denote its byte. -/
theorem escapeChar_special {char : Char} (special : isSpecial char = true) :
    ∃ high low, escapeChar char = ['\\', high, low] ∧ isKeyChar high = true ∧
      isKeyChar low = true ∧ ∀ text, decodeValue ('\\' :: high :: low :: text) =
        (decodeValue text).map fun bytes => String.utf8EncodeChar char ++ bytes := by
  simp only [isSpecial, Bool.or_eq_true, decide_eq_true_eq] at special
  rcases special with (((rfl | rfl) | rfl) | rfl) | rfl
  · exact ⟨'0', '0', rfl, rfl, rfl, fun _ => rfl⟩
  · exact ⟨'2', '8', rfl, rfl, rfl, fun _ => rfl⟩
  · exact ⟨'2', '9', rfl, rfl, rfl, fun _ => rfl⟩
  · exact ⟨'2', 'a', rfl, rfl, rfl, fun _ => rfl⟩
  · exact ⟨'5', 'c', rfl, rfl, rfl, fun _ => rfl⟩

/-- A written character is read back as its bytes. -/
theorem decodeValue_escapeChar (char : Char) (text : List Char) :
    decodeValue (escapeChar char ++ text) =
      (decodeValue text).map fun bytes => String.utf8EncodeChar char ++ bytes := by
  by_cases special : isSpecial char = true
  · obtain ⟨high, low, written, _, _, decoded⟩ := escapeChar_special special
    rw [written]
    exact decoded text
  · have other : char ≠ '\\' := by
      intro same
      subst same
      exact special rfl
    rw [escapeChar, if_neg special, List.singleton_append, decodeValue.eq_def]
    simp only [other, if_false, special, Bool.false_eq_true]

/-- A written value denotes its bytes. -/
theorem decodeValue_escapeValue (value : List Char) :
    decodeValue (escapeValue value) = some (Utf8.encode value) := by
  induction value with
  | nil => rfl
  | cons char value ih =>
    have shape : escapeValue (char :: value) = escapeChar char ++ escapeValue value :=
      List.flatMap_cons
    rw [shape, decodeValue_escapeChar, ih]
    rfl

/-- A letter, a digit and a hyphen are not special. -/
theorem isSpecial_of_isKeyChar {char : Char} (key : isKeyChar char = true) :
    isSpecial char = false := by
  rw [← Bool.not_eq_true]
  intro special
  simp only [isSpecial, Bool.or_eq_true, decide_eq_true_eq] at special
  rcases special with (((rfl | rfl) | rfl) | rfl) | rfl <;> revert key <;> decide

/-- A written value holds no special character but backslashes. -/
theorem notMem_escapeValue {special : Char} (isOne : isSpecial special = true)
    (other : special ≠ '\\') (value : List Char) : special ∉ escapeValue value := by
  intro listed
  obtain ⟨char, _, inside⟩ := List.mem_flatMap.mp listed
  by_cases escaped : isSpecial char = true
  · obtain ⟨high, low, written, highKey, lowKey, _⟩ := escapeChar_special escaped
    rw [written] at inside
    have digits : special = high ∨ special = low := by simpa [other] using inside
    cases digits with
    | inl first =>
      have plain := isSpecial_of_isKeyChar highKey
      rw [← first, isOne] at plain
      cases plain
    | inr second =>
      have plain := isSpecial_of_isKeyChar lowKey
      rw [← second, isOne] at plain
      cases plain
  · rw [escapeChar, if_neg escaped] at inside
    rw [List.mem_singleton.mp inside] at isOne
    exact escaped isOne

/-- Behind a backslash in a written value stand the digits of a special character. -/
theorem escapeValue_backslash {value before after : List Char}
    (written : escapeValue value = before ++ '\\' :: after) :
    ∃ special rest, isSpecial special = true ∧
      after = Text.hexDigits 2 special.toNat ++ rest := by
  induction value generalizing before with
  | nil => simp [escapeValue] at written
  | cons char value ih =>
    have shape : escapeValue (char :: value) = escapeChar char ++ escapeValue value :=
      List.flatMap_cons
    rw [shape] at written
    by_cases special : isSpecial char = true
    · obtain ⟨high, low, digits, highKey, lowKey, _⟩ := escapeChar_special special
      have pair : Text.hexDigits 2 char.toNat = [high, low] := by
        rw [escapeChar, if_pos special] at digits
        exact (List.cons.inj digits).2
      have notBackslash : high ≠ '\\' ∧ low ≠ '\\' := by
        constructor
        · rintro rfl
          cases highKey
        · rintro rfl
          cases lowKey
      rw [digits] at written
      -- The backslash is the one of this character or stands behind its digits.
      cases before with
      | nil =>
        refine ⟨char, escapeValue value, special, ?_⟩
        rw [pair]
        exact (List.cons.inj written).2.symm
      | cons first before =>
        have tail := (List.cons.inj written).2
        cases before with
        | nil => exact absurd (List.cons.inj tail).1 notBackslash.1
        | cons second before =>
          have last := (List.cons.inj tail).2
          cases before with
          | nil => exact absurd (List.cons.inj last).1 notBackslash.2
          | cons third before => exact ih (List.cons.inj last).2
    · rw [escapeChar, if_neg special] at written
      cases before with
      | nil =>
        have same : char = '\\' := (List.cons.inj written).1
        rw [same] at special
        exact absurd rfl special
      | cons first before => exact ih (List.cons.inj written).2

/-- The names of an extensible match whose rule cannot be taken for the mark of the DN. -/
structure MatchNames (attr rule : List Char) : Prop where
  /-- The attribute is one. -/
  attrDescribed : isAttribute attr = true
  /-- Its name ends at the colon. -/
  attrNamed : ∀ char ∈ attr, isNameChar char = true
  /-- The rule is an object identifier. -/
  ruleIdentified : isOid rule = true
  /-- Its name ends at the colon. -/
  ruleNamed : ∀ char ∈ rule, isNameChar char = true
  /-- It does not begin with a `d`. -/
  ruleHead : ∀ first ∈ rule.head?, first.toLower ≠ 'd'

/-- An extensible match as it is written. -/
def writeMatch (attr rule value : List Char) : List Char :=
  attr ++ ':' :: (rule ++ ':' :: '=' :: escapeValue value)

/-- What follows the attribute is read back. -/
theorem readExtensible_written {attr rule : List Char} (names : MatchNames attr rule)
    (given : Option String) (value : List Char) :
    readExtensible given (rule ++ ':' :: '=' :: escapeValue value) =
      some (.extensible given false (some (String.ofList rule)) (Utf8.encode value)) := by
  have colon : isNameChar ':' = false := by decide
  have ends := Text.ends_before names.ruleNamed colon ('=' :: escapeValue value)
  have identified := names.ruleIdentified
  have unmarked : ¬((rule ++ ':' :: '=' :: escapeValue value).take 3).map Char.toLower =
      ['d', 'n', ':'] := by
    intro marked
    cases rule with
    | nil => cases identified
    | cons first others =>
      have head : first.toLower = 'd' := (List.cons.inj marked).1
      exact names.ruleHead first rfl head
  unfold readExtensible
  simp only [unmarked, decide_false, if_false, ends.1, ends.2, identified,
    if_true, decodeValue_escapeValue, Option.map_some]

/-- An extensible match is read back. -/
theorem readItem_written {attr rule : List Char} (names : MatchNames attr rule)
    (value : List Char) :
    readItem (writeMatch attr rule value) =
      some (.extensible (some (String.ofList attr)) false (some (String.ofList rule))
        (Utf8.encode value)) := by
  have colon : isNameChar ':' = false := by decide
  have ends := Text.ends_before names.attrNamed colon (rule ++ ':' :: '=' :: escapeValue value)
  have given : ¬attr = [] := by
    intro empty
    have described := names.attrDescribed
    rw [empty] at described
    cases described
  unfold readItem writeMatch
  simp only [ends.1, ends.2, given, if_false, names.attrDescribed, if_true,
    readExtensible_written names]

/-- An item in parentheses is read as the item, up to the closing one. -/
theorem readFilter_item {first : Char} {item : List Char}
    (plain : first ≠ '&' ∧ first ≠ '|' ∧ first ≠ '!') (unclosed : ')' ∉ first :: item)
    (fuel : Nat) (rest : List Char) :
    readFilter (fuel + 1) ('(' :: (first :: item ++ ')' :: rest)) =
      (readItem (first :: item)).map fun read => (read, rest) := by
  obtain ⟨taken, dropped⟩ := Text.ends_before_separator unclosed rest
  rw [List.cons_append] at taken dropped ⊢
  rw [readFilter]
  · simp only [taken, dropped]
  · intro text same
    exact plain.1 (List.cons.inj same).1
  · intro text same
    exact plain.2.1 (List.cons.inj same).1
  · intro text same
    exact plain.2.2 (List.cons.inj same).1

/-- A name is not given by another kind of character. -/
theorem name_differs {char other : Char} (named : isNameChar char = true)
    (unnamed : isNameChar other = false) : char ≠ other := by
  intro same
  rw [same, unnamed] at named
  cases named

/-- No parenthesis closes within a written match. -/
theorem unclosed_writeMatch {attr rule : List Char} (names : MatchNames attr rule)
    (value : List Char) : ')' ∉ writeMatch attr rule value := by
  have inAttr : ')' ∉ attr := fun listed => name_differs (names.attrNamed _ listed) rfl rfl
  have inRule : ')' ∉ rule := fun listed => name_differs (names.ruleNamed _ listed) rfl rfl
  have inValue : ')' ∉ escapeValue value := notMem_escapeValue rfl (by decide) value
  simp [writeMatch, inAttr, inRule, inValue]

/-- An extensible match in parentheses is the filter that was written, whatever its value holds. -/
theorem parse_written {attr rule : List Char} (names : MatchNames attr rule) (value : List Char) :
    parse ('(' :: (writeMatch attr rule value ++ [')'])) =
      some (.extensible (some (String.ofList attr)) false (some (String.ofList rule))
        (Utf8.encode value)) := by
  have item := readItem_written names value
  have unclosed := unclosed_writeMatch names value
  cases described : attr with
  | nil =>
    have nonempty := names.attrDescribed
    rw [described] at nonempty
    cases nonempty
  | cons first others =>
    have named := names.attrNamed first (described ▸ List.mem_cons_self)
    have plain : first ≠ '&' ∧ first ≠ '|' ∧ first ≠ '!' :=
      ⟨name_differs named rfl, name_differs named rfl, name_differs named rfl⟩
    have shape : writeMatch (first :: others) rule value =
        first :: (others ++ ':' :: (rule ++ ':' :: '=' :: escapeValue value)) := rfl
    rw [described, shape] at item unclosed
    rw [parse, shape, List.length_cons, readFilter_item plain unclosed, item]
    rfl

end TacacsWeb.Library.LdapFilter
