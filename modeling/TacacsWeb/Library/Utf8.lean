import Mathlib.Data.List.Basic

/-!
# UTF-8 with replacement

Decoding bytes as Python does with `errors="replace"`: a byte sequence that is not the
encoding of a character gives one replacement character for its longest part that could
have begun one. Encoding is the standard library's, and decoding what was encoded gives
the text back.
-/

namespace TacacsWeb.Library.Utf8

/-- The bytes of a text. -/
def encode (chars : List Char) : List UInt8 := chars.flatMap String.utf8EncodeChar

/-- A continuation byte. -/
def isContinuation (byte : UInt8) : Bool := 0x80 ≤ byte && byte ≤ 0xBF

/-- The second byte of a three or four byte character may follow the first. -/
def secondFits (first second : UInt8) : Bool :=
  if first = 0xE0 then 0xA0 ≤ second && second ≤ 0xBF
  else if first = 0xED then 0x80 ≤ second && second ≤ 0x9F
  else if first = 0xF0 then 0x90 ≤ second && second ≤ 0xBF
  else if first = 0xF4 then 0x80 ≤ second && second ≤ 0x8F
  else 0xE1 ≤ first && first ≤ 0xF3 && isContinuation second

/-- The number of bytes at the front, which is no character, that one replacement stands for. -/
def replacedLength : List UInt8 → Nat
  | first :: second :: rest =>
    if !secondFits first second then 1
    else if first < 0xF0 then 2
    else match rest with
      | [] => 2
      | third :: _ => if isContinuation third then 3 else 2
  | _ => 1

/-- The character at the front, none where the bytes do not begin with one. -/
def decodeFront (bytes : List UInt8) : Option Char :=
  (bytes.take 4).toByteArray.utf8DecodeChar? 0

/-- Decode at most a number of characters. -/
def decodeUpTo : Nat → List UInt8 → List Char
  | 0, _ => []
  | _, [] => []
  | fuel + 1, bytes =>
    match decodeFront bytes with
    | some char => char :: decodeUpTo fuel (bytes.drop char.utf8Size)
    | none => '\uFFFD' :: decodeUpTo fuel (bytes.drop (replacedLength bytes))

/-- `bytes.decode("utf-8", errors="replace")`. -/
def decode (bytes : List UInt8) : List Char := decodeUpTo bytes.length bytes

/-- Encoding works character by character. -/
@[simp]
theorem encode_cons (char : Char) (chars : List Char) :
    encode (char :: chars) = String.utf8EncodeChar char ++ encode chars := rfl

/-- Encoding a concatenation. -/
theorem encode_append (first second : List Char) :
    encode (first ++ second) = encode first ++ encode second := List.flatMap_append

/-- The character at the front of an encoding is read back. -/
theorem decodeFront_encode (char : Char) (rest : List UInt8) :
    decodeFront (String.utf8EncodeChar char ++ rest) = some char := by
  have short : (String.utf8EncodeChar char).length ≤ 4 := by
    rw [String.length_utf8EncodeChar]
    exact char.utf8Size_le_four
  rw [decodeFront, List.take_append, List.take_of_length_le short, List.toByteArray_append]
  exact ByteArray.utf8DecodeChar?_utf8EncodeChar_append

/-- Decoding an encoding gives the characters back. -/
theorem decodeUpTo_encode {fuel : Nat} {chars : List Char} (enough : chars.length ≤ fuel) :
    decodeUpTo fuel (encode chars) = chars := by
  induction chars generalizing fuel with
  | nil => cases fuel <;> rfl
  | cons char chars ih =>
    cases fuel with
    | zero => simp at enough
    | succ fuel =>
      obtain ⟨first, rest, shape⟩ : ∃ first rest, encode (char :: chars) = first :: rest := by
        cases bytes : encode (char :: chars) with
        | nil =>
          have size := congrArg List.length bytes
          have positive := char.utf8Size_pos
          simp at size
          omega
        | cons first rest => exact ⟨first, rest, rfl⟩
      have front := decodeFront_encode char (encode chars)
      rw [← encode_cons] at front
      have dropped : (encode (char :: chars)).drop char.utf8Size = encode chars := by
        rw [encode_cons, ← String.length_utf8EncodeChar, List.drop_left]
      rw [shape] at front dropped ⊢
      simp only [decodeUpTo, front, dropped]
      rw [ih (Nat.le_of_succ_le_succ enough)]

/-- Characters take at least as many bytes. -/
theorem length_le_encode (chars : List Char) : chars.length ≤ (encode chars).length := by
  induction chars with
  | nil => exact Nat.le_refl _
  | cons char chars ih =>
    have positive := char.utf8Size_pos
    simp only [encode_cons, List.length_cons, List.length_append, String.length_utf8EncodeChar]
    omega

/-- Decoding an encoding gives the text back. -/
theorem decode_encode (chars : List Char) : decode (encode chars) = chars :=
  decodeUpTo_encode (length_le_encode chars)

/-- The bytes of a character beyond ASCII all have the high bit set. -/
theorem high_of_mem_utf8EncodeChar {char : Char} (wide : char.utf8Size ≠ 1) {byte : UInt8}
    (listed : byte ∈ String.utf8EncodeChar char) : 0x80 ≤ byte.toNat := by
  have high : ∀ low mark : UInt8, 0x80 ≤ mark.toNat → 0x80 ≤ (low ||| mark).toNat := by
    intro low mark marked
    rw [UInt8.toNat_or]
    exact Nat.le_trans marked Nat.right_le_or
  rcases char.utf8Size_eq with one | two | three | four
  · exact absurd one wide
  · rw [String.utf8EncodeChar_eq_cons_cons two] at listed
    simp only [List.mem_cons, List.not_mem_nil, or_false] at listed
    rcases listed with rfl | rfl <;> exact high _ _ (by decide)
  · rw [String.utf8EncodeChar_eq_cons_cons_cons three] at listed
    simp only [List.mem_cons, List.not_mem_nil, or_false] at listed
    rcases listed with rfl | rfl | rfl <;> exact high _ _ (by decide)
  · rw [String.utf8EncodeChar_eq_cons_cons_cons_cons four] at listed
    simp only [List.mem_cons, List.not_mem_nil, or_false] at listed
    rcases listed with rfl | rfl | rfl | rfl <;> exact high _ _ (by decide)

/-- An ASCII byte in the encoding of a character is the character itself. -/
theorem eq_of_ascii_mem {char : Char} {byte : UInt8} (ascii : byte.toNat < 0x80)
    (listed : byte ∈ String.utf8EncodeChar char) : char.toNat = byte.toNat := by
  by_cases one : char.utf8Size = 1
  · rw [String.utf8EncodeChar_eq_singleton one, List.mem_singleton] at listed
    have small := Char.utf8Size_eq_one_iff.mp one
    subst listed
    have bound : char.val.toNat ≤ 127 := by simpa using UInt32.le_iff_toNat_le.mp small
    simp only [Char.toNat, UInt32.toNat_toUInt8]
    omega
  · exact absurd (high_of_mem_utf8EncodeChar one listed) (by omega)

/-- A text without an ASCII character encodes to bytes without it. -/
theorem notMem_encode {char : Char} {chars : List Char} {byte : UInt8}
    (ascii : byte.toNat < 0x80) (same : char.toNat = byte.toNat) (absent : char ∉ chars) :
    byte ∉ encode chars := by
  intro listed
  obtain ⟨other, present, inBytes⟩ := List.mem_flatMap.mp listed
  have equal := eq_of_ascii_mem ascii inBytes
  have identical : other = char := Char.ext (UInt32.toNat_inj.mp (equal.trans same.symm))
  exact absent (identical ▸ present)

end TacacsWeb.Library.Utf8
