import Mathlib.Data.List.Basic

/-!
# Base64 as Python reads and writes it

`base64.b64encode`, and `base64.b64decode` without validation: a machine that takes the characters
of the alphabet in groups of four, passes over every other character, and stops at the padding of an
unfinished group. What was encoded is read back, whatever other characters stand in between.
-/

namespace TacacsWeb.Library.Base64

/-- The padding character. -/
def pad : UInt8 := 61

/-- The character of a value below 64. -/
def letter (value : Nat) : UInt8 :=
  if value < 26 then UInt8.ofNat (value + 65)
  else if value < 52 then UInt8.ofNat (value + 71)
  else if value < 62 then UInt8.ofNat (value - 4)
  else if value = 62 then 43
  else 47

/-- The value of a character of the alphabet. -/
def valueOf (code : UInt8) : Option Nat :=
  if 65 ≤ code ∧ code ≤ 90 then some (code.toNat - 65)
  else if 97 ≤ code ∧ code ≤ 122 then some (code.toNat - 71)
  else if 48 ≤ code ∧ code ≤ 57 then some (code.toNat + 4)
  else if code = 43 then some 62
  else if code = 47 then some 63
  else none

/-- `base64.b64encode(bytes)`. -/
def encode : List UInt8 → List UInt8
  | [] => []
  | [first] => [letter (first.toNat / 4), letter (first.toNat % 4 * 16), pad, pad]
  | [first, second] =>
    [letter (first.toNat / 4), letter (first.toNat % 4 * 16 + second.toNat / 16),
      letter (second.toNat % 16 * 4), pad]
  | first :: second :: third :: rest =>
    letter (first.toNat / 4) :: letter (first.toNat % 4 * 16 + second.toNat / 16) ::
      letter (second.toNat % 16 * 4 + third.toNat / 64) :: letter (third.toNat % 64) :: encode rest

/-- What is read from a position in a group on, with the bits that are left over from the character
before and the number of padding characters since; none where it raises. -/
def decodeFrom (position left pads : Nat) : List UInt8 → Option (List UInt8)
  | [] => if position = 0 then some [] else none
  | code :: rest =>
    if code = pad then
      if 2 ≤ position then
        if 4 ≤ position + (pads + 1) then some [] else decodeFrom position left (pads + 1) rest
      else decodeFrom position left pads rest
    else
      match valueOf code with
      | none => decodeFrom position left pads rest
      | some value =>
        match position with
        | 0 => decodeFrom 1 value 0 rest
        | 1 => (decodeFrom 2 (value % 16) 0 rest).map (UInt8.ofNat (left * 4 + value / 16) :: ·)
        | 2 => (decodeFrom 3 (value % 4) 0 rest).map (UInt8.ofNat (left * 16 + value / 4) :: ·)
        | _ => (decodeFrom 0 0 0 rest).map (UInt8.ofNat (left * 64 + value) :: ·)

/-- `base64.b64decode(text)`. -/
def decode (text : List UInt8) : Option (List UInt8) := decodeFrom 0 0 0 text

/-- A character of the alphabet, or padding. -/
def significant (code : UInt8) : Bool := decide (code = pad) || (valueOf code).isSome

/-! ## Characters -/

/-- A character stands for its value. -/
theorem valueOf_letter {value : Nat} (below : value < 64) :
    valueOf (letter value) = some value := by
  have all : ∀ value < 64, valueOf (letter value) = some value := by decide
  exact all value below

/-- A letter is no padding. -/
theorem letter_ne_pad {value : Nat} (below : value < 64) : letter value ≠ pad := by
  have all : ∀ value < 64, letter value ≠ pad := by decide
  exact all value below

/-- A letter is significant. -/
theorem significant_letter {value : Nat} (below : value < 64) :
    significant (letter value) = true := by
  rw [significant, valueOf_letter below]
  exact Bool.or_true _

/-- All characters of an encoding are significant. -/
theorem significant_encode (bytes : List UInt8) :
    ∀ code ∈ encode bytes, significant code = true := by
  have padding : significant pad = true := rfl
  induction bytes using encode.induct with
  | case1 => simp [encode]
  | case2 first =>
    have bound := first.toNat_lt
    have high := @significant_letter (first.toNat / 4) (by omega)
    have low := @significant_letter (first.toNat % 4 * 16) (by omega)
    simp [encode, padding, high, low]
  | case3 first second =>
    have bound := first.toNat_lt
    have boundToo := second.toNat_lt
    have high := @significant_letter (first.toNat / 4) (by omega)
    have middle := @significant_letter (first.toNat % 4 * 16 + second.toNat / 16) (by omega)
    have low := @significant_letter (second.toNat % 16 * 4) (by omega)
    simp [encode, padding, high, middle, low]
  | case4 first second third rest ih =>
    have bound := first.toNat_lt
    have boundToo := second.toNat_lt
    have boundLast := third.toNat_lt
    have high := @significant_letter (first.toNat / 4) (by omega)
    have middle := @significant_letter (first.toNat % 4 * 16 + second.toNat / 16) (by omega)
    have next := @significant_letter (second.toNat % 16 * 4 + third.toNat / 64) (by omega)
    have low := @significant_letter (third.toNat % 64) (by omega)
    intro code listed
    simp only [encode, List.mem_cons] at listed
    rcases listed with rfl | rfl | rfl | rfl | later
    · exact high
    · exact middle
    · exact next
    · exact low
    · exact ih code later

/-- Significant characters are ASCII. -/
theorem lt_of_significant {code : UInt8} (counts : significant code = true) : code.toNat < 128 := by
  have all : ∀ number < 256, significant (UInt8.ofNat number) = true → number < 128 := by
    decide +kernel
  have found := all code.toNat code.toNat_lt
  rw [UInt8.ofNat_toNat] at found
  exact found counts

/-- An encoding has four characters for each group of three bytes. -/
theorem length_encode (bytes : List UInt8) :
    (encode bytes).length = (bytes.length + 2) / 3 * 4 := by
  induction bytes using encode.induct with
  | case1 => rfl
  | case2 first => simp [encode]
  | case3 first second => simp [encode]
  | case4 first second third rest ih =>
    simp only [encode, List.length_cons, ih]
    omega

/-! ## Reading -/

section Steps

variable {value left pads : Nat}

/-- The first character of a group. -/
theorem decodeFrom_first (below : value < 64) (rest : List UInt8) :
    decodeFrom 0 left pads (letter value :: rest) = decodeFrom 1 value 0 rest := by
  simp only [decodeFrom, if_neg (letter_ne_pad below), valueOf_letter below]

/-- The second one, which completes a byte. -/
theorem decodeFrom_second (below : value < 64) (rest : List UInt8) :
    decodeFrom 1 left pads (letter value :: rest) =
      (decodeFrom 2 (value % 16) 0 rest).map (UInt8.ofNat (left * 4 + value / 16) :: ·) := by
  simp only [decodeFrom, if_neg (letter_ne_pad below), valueOf_letter below]

/-- The third one. -/
theorem decodeFrom_third (below : value < 64) (rest : List UInt8) :
    decodeFrom 2 left pads (letter value :: rest) =
      (decodeFrom 3 (value % 4) 0 rest).map (UInt8.ofNat (left * 16 + value / 4) :: ·) := by
  simp only [decodeFrom, if_neg (letter_ne_pad below), valueOf_letter below]

/-- The last one. -/
theorem decodeFrom_fourth (below : value < 64) (rest : List UInt8) :
    decodeFrom 3 left pads (letter value :: rest) =
      (decodeFrom 0 0 0 rest).map (UInt8.ofNat (left * 64 + value) :: ·) := by
  simp only [decodeFrom, if_neg (letter_ne_pad below), valueOf_letter below]

end Steps

/-- A byte is its number. -/
theorem ofNat_eq {number : Nat} {byte : UInt8} (same : number = byte.toNat) :
    UInt8.ofNat number = byte := by
  rw [same, UInt8.ofNat_toNat]

/-- What was encoded is read back. -/
theorem decode_encode (bytes : List UInt8) : decode (encode bytes) = some bytes := by
  rw [decode]
  induction bytes using encode.induct with
  | case1 => rfl
  | case2 first =>
    have bound := first.toNat_lt
    have whole : UInt8.ofNat (first.toNat / 4 * 4 + first.toNat % 4 * 16 / 16) = first :=
      ofNat_eq (by omega)
    rw [encode, decodeFrom_first (by omega), decodeFrom_second (by omega), whole]
    rfl
  | case3 first second =>
    have bound := first.toNat_lt
    have boundToo := second.toNat_lt
    have whole : UInt8.ofNat (first.toNat / 4 * 4 +
        (first.toNat % 4 * 16 + second.toNat / 16) / 16) = first := ofNat_eq (by omega)
    have wholeToo : UInt8.ofNat ((first.toNat % 4 * 16 + second.toNat / 16) % 16 * 16 +
        second.toNat % 16 * 4 / 4) = second := ofNat_eq (by omega)
    rw [encode, decodeFrom_first (by omega), decodeFrom_second (by omega),
      decodeFrom_third (by omega), whole, wholeToo]
    rfl
  | case4 first second third rest ih =>
    have bound := first.toNat_lt
    have boundToo := second.toNat_lt
    have boundLast := third.toNat_lt
    have whole : UInt8.ofNat (first.toNat / 4 * 4 +
        (first.toNat % 4 * 16 + second.toNat / 16) / 16) = first := ofNat_eq (by omega)
    have wholeToo : UInt8.ofNat ((first.toNat % 4 * 16 + second.toNat / 16) % 16 * 16 +
        (second.toNat % 16 * 4 + third.toNat / 64) / 4) = second := ofNat_eq (by omega)
    have wholeLast : UInt8.ofNat ((second.toNat % 16 * 4 + third.toNat / 64) % 4 * 64 +
        third.toNat % 64) = third := ofNat_eq (by omega)
    rw [encode, decodeFrom_first (by omega), decodeFrom_second (by omega),
      decodeFrom_third (by omega), decodeFrom_fourth (by omega), ih, whole, wholeToo, wholeLast]
    rfl

/-- Other characters are passed over. -/
theorem decodeFrom_filter (position left pads : Nat) (text : List UInt8) :
    decodeFrom position left pads (text.filter significant) =
      decodeFrom position left pads text := by
  induction text generalizing position left pads with
  | nil => rfl
  | cons code rest ih =>
    by_cases padding : code = pad
    · have kept : significant code = true := by simp [significant, padding]
      rw [List.filter_cons_of_pos kept, decodeFrom, decodeFrom, if_pos padding, if_pos padding, ih,
        ih]
    · cases read : valueOf code with
      | none =>
        have dropped : ¬significant code = true := by simp [significant, padding, read]
        rw [List.filter_cons_of_neg dropped, ih, decodeFrom, if_neg padding, read]
      | some value =>
        have kept : significant code = true := by simp [significant, read]
        rw [List.filter_cons_of_pos kept, decodeFrom.eq_def, decodeFrom.eq_def _ _ _ (code :: rest)]
        simp only [if_neg padding, read, ih]

/-- A text with the characters of an encoding and others in between is read as that encoding. -/
theorem decode_of_filter {text bytes : List UInt8} (same : text.filter significant = encode bytes) :
    decode text = some bytes := by
  rw [← decode_encode bytes, ← same]
  exact (decodeFrom_filter 0 0 0 text).symm

/-- Taking characters that mean nothing off the front changes nothing that is read. -/
theorem filter_dropWhile {test : UInt8 → Bool}
    (idle : ∀ code, test code = true → significant code = false) (text : List UInt8) :
    (text.dropWhile test).filter significant = text.filter significant := by
  induction text with
  | nil => rfl
  | cons code rest ih =>
    by_cases taken : test code = true
    · have dropped : ¬significant code = true := by simp [idle code taken]
      rw [List.dropWhile_cons_of_pos taken, List.filter_cons_of_neg dropped, ih]
    · rw [List.dropWhile_cons_of_neg taken]

end TacacsWeb.Library.Base64
