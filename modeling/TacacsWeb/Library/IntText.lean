import TacacsWeb.Library.Text

/-!
# Integers as texts

`int()` reads back what `str()` writes. Both raise beyond 4300 digits, so an integer has a
decimal text exactly when `int()` accepts it.
-/

namespace TacacsWeb.Library.Text

/-- An ASCII digit is a decimal digit. -/
theorem decimalDigit_of_isDigit {zeros : List Nat} {char : Char} (digit : char.isDigit = true) :
    decimalDigit zeros char = some (char.toNat - 48) := by
  have bounds : 48 ≤ char.toNat ∧ char.toNat < 48 + 10 := by
    simp only [Char.isDigit, Bool.and_eq_true, decide_eq_true_eq, ge_iff_le, UInt32.le_iff_toNat_le]
      at digit
    exact ⟨digit.1, Nat.lt_succ_of_le digit.2⟩
  simp [decimalDigit, bounds.1, bounds.2]

/-- An ASCII digit is no blank. -/
theorem isIntSpace_of_isDigit {char : Char} (digit : char.isDigit = true) :
    isIntSpace char = false := by
  have bounds : 48 ≤ char.toNat ∧ char.toNat ≤ 57 := by
    simp only [Char.isDigit, Bool.and_eq_true, decide_eq_true_eq, ge_iff_le, UInt32.le_iff_toNat_le]
      at digit
    exact digit
  have space : isSpace char = false := by
    simp only [isSpace, Bool.or_eq_false_iff, Bool.and_eq_false_iff, decide_eq_false_iff_not]
    omega
  rw [isIntSpace, space, Bool.false_and]

/-- The digits of a run of ASCII digits. -/
theorem intDigits_of_isDigit {zeros : List Nat} {first : Char} {rest : List Char}
    (digits : ∀ char ∈ first :: rest, char.isDigit = true) :
    intDigits zeros (first :: rest) = some ((first :: rest).map fun char => char.toNat - 48) := by
  induction rest generalizing first with
  | nil => simp [intDigits, decimalDigit_of_isDigit (digits first List.mem_cons_self)]
  | cons next rest ih =>
    have later := ih fun char listed => digits char (List.mem_cons_of_mem _ listed)
    have nextDigit := digits next (List.mem_cons_of_mem _ List.mem_cons_self)
    have separate : next ≠ '_' := by
      rintro rfl
      exact absurd nextDigit (by decide)
    rw [intDigits, decimalDigit_of_isDigit (digits first List.mem_cons_self), if_neg separate,
      later]
    rfl

/-- The digits of a number read as the number, when there are at most 4300. -/
theorem intMagnitude_toDigits (zeros : List Nat) (value : Nat) :
    intMagnitude zeros (Nat.toDigits 10 value) =
      if value.repr.length ≤ 4300 then some value else none := by
  have digits : ∀ char ∈ Nat.toDigits 10 value, char.isDigit = true := fun char listed =>
    Nat.isDigit_of_mem_toDigits (by decide) (by decide) listed
  have length : value.repr.length = (Nat.toDigits 10 value).length := by
    rw [← String.length_toList, Nat.toList_repr]
  have read : intDigits zeros (Nat.toDigits 10 value) =
      some ((Nat.toDigits 10 value).map fun char => char.toNat - 48) := by
    cases shape : Nat.toDigits 10 value with
    | nil => exact absurd shape Nat.toDigits_ne_nil
    | cons first rest => exact intDigits_of_isDigit (shape ▸ digits)
  have magnitude : ((Nat.toDigits 10 value).map fun char => char.toNat - 48).foldl
      (fun value digit => 10 * value + digit) 0 = value := by
    rw [List.foldl_map]
    exact Nat.ofDigitChars_toDigits (by decide) (by decide)
  simp only [intMagnitude, read, List.length_map, magnitude, length]

/-- A text that begins and ends with no blank is not stripped. -/
theorem strip_digits {value : Nat} {sign : List Char}
    (signed : ∀ char ∈ sign, isIntSpace char = false) :
    dropEndWhile isIntSpace ((sign ++ Nat.toDigits 10 value).dropWhile isIntSpace) =
      sign ++ Nat.toDigits 10 value := by
  have unspaced : ∀ char ∈ sign ++ Nat.toDigits 10 value, isIntSpace char = false := by
    intro char listed
    rcases List.mem_append.mp listed with inSign | digit
    · exact signed char inSign
    · exact isIntSpace_of_isDigit
        (Nat.isDigit_of_mem_toDigits (by decide) (by decide) digit)
  have kept : ∀ chars : List Char, (∀ char ∈ chars, isIntSpace char = false) →
      chars.dropWhile isIntSpace = chars := by
    intro chars unspaced
    cases chars with
    | nil => rfl
    | cons first rest => simp [unspaced first List.mem_cons_self]
  rw [kept _ unspaced, dropEndWhile, kept _ fun char listed =>
    unspaced char (List.mem_reverse.mp listed), List.reverse_reverse]

/-- The text of a negative integer. -/
theorem toList_toString_negSucc (value : Nat) :
    (toString (Int.negSucc value)).toList = ['-'] ++ Nat.toDigits 10 (value + 1) := by
  rw [← Nat.toList_repr, ← String.toList_singleton, ← String.toList_append]
  rfl

/-- `int(str(value))` is the value, when it has at most 4300 digits, under any table of digits. -/
theorem parseIntIn_toString (zeros : List Nat) (value : Int) :
    parseIntIn zeros (toString value) =
      if value.natAbs.repr.length ≤ 4300 then some value else none := by
  cases value with
  | ofNat value =>
    have text : (toString (Int.ofNat value)).toList = [] ++ Nat.toDigits 10 value :=
      Nat.toList_repr
    rw [parseIntIn, text, strip_digits fun _ listed => absurd listed List.not_mem_nil]
    have magnitude := intMagnitude_toDigits zeros value
    have first : ∀ char ∈ Nat.toDigits 10 value, char ≠ '-' ∧ char ≠ '+' := by
      intro char listed
      have digit := Nat.isDigit_of_mem_toDigits (by decide) (by decide) listed
      constructor <;> rintro rfl <;> exact absurd digit (by decide)
    cases shape : Nat.toDigits 10 value with
    | nil => exact absurd shape Nat.toDigits_ne_nil
    | cons head rest =>
      have plain := first head (shape ▸ List.mem_cons_self)
      rw [shape] at magnitude
      rw [List.nil_append]
      split
      · rename_i same
        exact absurd (List.cons.inj same).1 plain.1
      · rename_i same
        exact absurd (List.cons.inj same).1 plain.2
      · rw [magnitude]
        simp only [Int.ofNat_eq_natCast, Int.natAbs_natCast]
        split <;> simp
  | negSucc value =>
    have signed : ∀ char ∈ ['-'], isIntSpace char = false := by
      intro char listed
      rw [List.mem_singleton.mp listed]
      decide
    rw [parseIntIn, toList_toString_negSucc, strip_digits signed, List.singleton_append]
    simp only [intMagnitude_toDigits]
    simp only [Int.natAbs_negSucc, Nat.succ_eq_add_one]
    split
    · rfl
    · rfl

/-- `int` of Python 3.13 takes the decimal text of a number with at most 4300 digits. -/
theorem parseInt_toString (value : Int) :
    parseInt (toString value) = if value.natAbs.repr.length ≤ 4300 then some value else none :=
  parseIntIn_toString decimalZeros15 value

/-- The characters of an integer. -/
theorem mem_toString_int {value : Int} {char : Char} (listed : char ∈ (toString value).toList) :
    char = '-' ∨ char.isDigit = true := by
  cases value with
  | ofNat value =>
    have text : (toString (Int.ofNat value)).toList = Nat.toDigits 10 value := Nat.toList_repr
    rw [text] at listed
    exact .inr (Nat.isDigit_of_mem_toDigits (by decide) (by decide) listed)
  | negSucc value =>
    rw [toList_toString_negSucc, List.singleton_append, List.mem_cons] at listed
    exact listed.imp id fun digit => Nat.isDigit_of_mem_toDigits (by decide) (by decide) digit

/-- A decimal digit is at most nine. -/
theorem decimalDigit_lt {zeros : List Nat} {char : Char} {digit : Nat}
    (found : decimalDigit zeros char = some digit) : digit < 10 := by
  obtain ⟨first, listed, rfl⟩ := Option.map_eq_some_iff.mp found
  have within := List.find?_some listed
  simp only [Bool.and_eq_true, decide_eq_true_eq] at within
  omega

/-- The digits of a literal are at most nine. -/
theorem intDigits_lt {zeros : List Nat} {chars : List Char} {digits : List Nat}
    (read : intDigits zeros chars = some digits) : ∀ digit ∈ digits, digit < 10 := by
  fun_induction intDigits zeros chars generalizing digits with
  | case1 => cases read
  | case2 char =>
    obtain ⟨digit, found, rfl⟩ := Option.map_eq_some_iff.mp read
    intro other listed
    rw [List.mem_singleton.mp listed]
    exact decimalDigit_lt found
  | case3 char next rest =>
    rename_i afterUnderscore afterDigit
    obtain ⟨digit, found, mapped⟩ := Option.bind_eq_some_iff.mp read
    obtain ⟨later, readLater, rfl⟩ := Option.map_eq_some_iff.mp mapped
    intro other listed
    rcases List.mem_cons.mp listed with rfl | inLater
    · exact decimalDigit_lt found
    · split at readLater
      · exact afterUnderscore readLater other inLater
      · exact afterDigit readLater other inLater

/-- Digits make a number with as many places. -/
theorem foldl_digits_lt {digits : List Nat} (small : ∀ digit ∈ digits, digit < 10) (value : Nat) :
    digits.foldl (fun value digit => 10 * value + digit) value <
      (value + 1) * Nat.pow 10 digits.length := by
  induction digits generalizing value with
  | nil => simp
  | cons digit digits ih =>
    have first := small digit List.mem_cons_self
    have rest := ih (fun other listed => small other (List.mem_cons_of_mem _ listed))
      (10 * value + digit)
    refine Nat.lt_of_lt_of_le rest ?_
    have place : Nat.pow 10 (digit :: digits).length = 10 * Nat.pow 10 digits.length :=
      Nat.mul_comm _ _
    rw [place, ← Nat.mul_assoc]
    exact Nat.mul_le_mul_right _ (by omega)

/-- What `int()` accepts has at most 4300 digits. -/
theorem parseIntIn_short {zeros : List Nat} {text : String} {value : Int}
    (read : parseIntIn zeros text = some value) :
    value.natAbs.repr.length ≤ 4300 := by
  have short : ∀ {chars : List Char} {value : Nat}, intMagnitude zeros chars = some value →
      value.repr.length ≤ 4300 := by
    intro chars value magnitude
    rw [Nat.length_repr_le_iff (by decide)]
    rw [intMagnitude] at magnitude
    split at magnitude
    · cases magnitude
    · rename_i digits found
      split at magnitude
      · rename_i few
        obtain rfl := Option.some.inj magnitude
        have bound := foldl_digits_lt (intDigits_lt found) 0
        rw [Nat.zero_add, Nat.one_mul] at bound
        exact Nat.lt_of_lt_of_le bound (Nat.pow_le_pow_right (by decide) few)
      · cases magnitude
  rw [parseIntIn] at read
  split at read
  all_goals
    obtain ⟨signed, found, rfl⟩ := Option.map_eq_some_iff.mp read
    obtain ⟨magnitude, digits, same⟩ := Option.bind_eq_some_iff.mp found
    obtain rfl : (magnitude : Int) = signed := Option.some.inj same
    simpa using short digits

/-- The digits of a number determine it. -/
theorem repr_toList_inj {first second : Nat} (same : first.repr.toList = second.repr.toList) :
    first = second := by
  have value : ∀ number : Nat, Nat.ofDigitChars 10 number.repr.toList 0 = number := by
    intro number
    rw [Nat.toList_repr]
    exact Nat.ofDigitChars_toDigits (by decide) (by decide)
  rw [← value first, same, value second]

/-- A number can be read off the front of a text that goes on with anything but a digit. -/
theorem repr_append_inj {first second : Nat} {separator : Char} {rest others : List Char}
    (plain : separator.isDigit = false)
    (same : first.repr.toList ++ separator :: rest = second.repr.toList ++ separator :: others) :
    first = second ∧ rest = others := by
  have digits : ∀ value : Nat, ∀ char ∈ value.repr.toList, char.isDigit = true := by
    intro value char listed
    rw [Nat.toList_repr] at listed
    exact Nat.isDigit_of_mem_toDigits (by decide) (by decide) listed
  have front : ∀ (value : Nat) (rest : List Char),
      (value.repr.toList ++ separator :: rest).takeWhile Char.isDigit = value.repr.toList := by
    intro value rest
    rw [List.takeWhile_append_of_pos (digits value),
      List.takeWhile_cons_of_neg (Bool.eq_false_iff.mp plain), List.append_nil]
  have texts : first.repr.toList = second.repr.toList := by
    rw [← front first rest, same, front second others]
  have numbers : first = second := repr_toList_inj texts
  rw [numbers] at same
  exact ⟨numbers, (List.cons.inj (List.append_cancel_left same)).2⟩

end TacacsWeb.Library.Text
