import Mathlib.Data.List.Basic

/-!
# Octet counting

A stream of messages, each behind its length: decimal digits, a space, and as many bytes. The
receiver reads digits up to a space, takes that many bytes and goes on. It gives the messages back
that were framed, whatever bytes they hold, so no two lists of messages make one stream.
-/

namespace TacacsWeb.Library.OctetCounting

/-- A number in decimal digits. -/
def decimal (value : Nat) : List UInt8 :=
  (Nat.toDigits 10 value).map fun digit => UInt8.ofNat digit.toNat

/-- A message behind its length. -/
def frame (payload : List UInt8) : List UInt8 := decimal payload.length ++ 0x20 :: payload

/-- Read digits up to a space, behind the digits that were read before. -/
def readDigits : Nat → List UInt8 → Option (Nat × List UInt8)
  | _, [] => none
  | value, byte :: bytes =>
    if byte = 0x20 then some (value, bytes)
    else if 0x30 ≤ byte ∧ byte ≤ 0x39 then readDigits (10 * value + (byte.toNat - 48)) bytes
    else none

/-- Read a length of one digit at least. -/
def readLength (bytes : List UInt8) : Option (Nat × List UInt8) :=
  if bytes.head? = some 0x20 then none else readDigits 0 bytes

/-- Read a number of messages at most, none where the stream is broken or goes on. -/
def receiveUpTo : Nat → List UInt8 → Option (List (List UInt8))
  | _, [] => some []
  | 0, _ => none
  | fuel + 1, bytes =>
    match readLength bytes with
    | none => none
    | some (length, rest) =>
      if length ≤ rest.length then
        (receiveUpTo fuel (rest.drop length)).map fun payloads => rest.take length :: payloads
      else none

/-- Read all messages of a stream. -/
def receive (bytes : List UInt8) : Option (List (List UInt8)) := receiveUpTo bytes.length bytes

/-- The byte of a digit. -/
theorem toNat_digit {digit : Char} (decimalDigit : digit.isDigit = true) :
    (UInt8.ofNat digit.toNat).toNat = digit.toNat ∧ 48 ≤ digit.toNat ∧ digit.toNat ≤ 57 := by
  have bounds : 48 ≤ digit.toNat ∧ digit.toNat ≤ 57 := Char.isDigit_iff_toNat.mp decimalDigit
  have small : digit.toNat < 256 := by omega
  refine ⟨?_, bounds⟩
  rw [UInt8.toNat_ofNat']
  exact Nat.mod_eq_of_lt small

/-- A digit is read behind the digits before it. -/
theorem readDigits_digit {digit : Char} (decimalDigit : digit.isDigit = true) (value : Nat)
    (bytes : List UInt8) :
    readDigits value (UInt8.ofNat digit.toNat :: bytes) =
      readDigits (10 * value + (digit.toNat - 48)) bytes := by
  obtain ⟨same, lower, upper⟩ := toNat_digit decimalDigit
  have noSpace : UInt8.ofNat digit.toNat ≠ 0x20 := by
    intro space
    have code := congrArg UInt8.toNat space
    rw [same] at code
    have small : (0x20 : UInt8).toNat = 32 := rfl
    omega
  have isDigit : 0x30 ≤ UInt8.ofNat digit.toNat ∧ UInt8.ofNat digit.toNat ≤ 0x39 := by
    rw [UInt8.le_iff_toNat_le, UInt8.le_iff_toNat_le, same]
    exact ⟨lower, upper⟩
  rw [readDigits, if_neg noSpace, if_pos isDigit, same]

/-- Digits up to a space are read as their value. -/
theorem readDigits_append {digits : List Char} (decimals : ∀ digit ∈ digits, digit.isDigit = true)
    (value : Nat) (rest : List UInt8) :
    readDigits value (digits.map (fun digit => UInt8.ofNat digit.toNat) ++ 0x20 :: rest) =
      some (Nat.ofDigitChars 10 digits value, rest) := by
  induction digits generalizing value with
  | nil => rfl
  | cons digit digits ih =>
    have first := decimals digit List.mem_cons_self
    have others := ih fun other listed => decimals other (List.mem_cons_of_mem digit listed)
    rw [List.map_cons, List.cons_append, readDigits_digit first, others, Nat.ofDigitChars_cons]
    rfl

/-- The length of a frame is read back. -/
theorem readLength_decimal (value : Nat) (rest : List UInt8) :
    readLength (decimal value ++ 0x20 :: rest) = some (value, rest) := by
  have decimals : ∀ digit ∈ Nat.toDigits 10 value, digit.isDigit = true := fun digit listed =>
    Nat.isDigit_of_mem_toDigits (by decide) (by decide) listed
  have read := readDigits_append decimals 0 rest
  rw [Nat.ofDigitChars_ten_toDigits] at read
  unfold readLength decimal
  cases digits : Nat.toDigits 10 value with
  | nil => exact absurd digits Nat.toDigits_ne_nil
  | cons first others =>
    rw [digits] at read decimals
    have noSpace : ¬(List.map (fun digit => UInt8.ofNat digit.toNat) (first :: others) ++
        0x20 :: rest).head? = some 0x20 := by
      rw [List.map_cons, List.cons_append, List.head?_cons]
      intro space
      obtain ⟨same, lower, upper⟩ := toNat_digit (decimals first List.mem_cons_self)
      have code := congrArg UInt8.toNat (Option.some.inj space)
      rw [same] at code
      have small : (0x20 : UInt8).toNat = 32 := rfl
      omega
    rw [if_neg noSpace, read]

/-- A frame at the front is read, and the rest after it. -/
theorem receiveUpTo_frame (fuel : Nat) (payload rest : List UInt8) :
    receiveUpTo (fuel + 1) (frame payload ++ rest) =
      (receiveUpTo fuel rest).map fun payloads => payload :: payloads := by
  have shape : frame payload ++ rest = decimal payload.length ++ 0x20 :: (payload ++ rest) := by
    rw [frame, List.append_assoc, List.cons_append]
  have nonempty : frame payload ++ rest ≠ [] := by
    intro empty
    rw [shape] at empty
    exact List.cons_ne_nil _ _ (List.append_eq_nil_iff.mp empty).2
  rw [receiveUpTo.eq_def]
  cases bytes : frame payload ++ rest with
  | nil => exact absurd bytes nonempty
  | cons first others =>
    have read : readLength (first :: others) = some (payload.length, payload ++ rest) := by
      rw [← bytes, shape]
      exact readLength_decimal payload.length (payload ++ rest)
    simp only [read]
    rw [if_pos (by simp), List.take_left, List.drop_left]

/-- The messages that were framed are read. -/
theorem receiveUpTo_frames {fuel : Nat} {payloads : List (List UInt8)}
    (enough : payloads.length ≤ fuel) :
    receiveUpTo fuel (payloads.flatMap frame) = some payloads := by
  induction payloads generalizing fuel with
  | nil => cases fuel <;> rfl
  | cons payload payloads ih =>
    cases fuel with
    | zero => cases enough
    | succ fuel =>
      rw [List.flatMap_cons, receiveUpTo_frame, ih (Nat.le_of_succ_le_succ enough)]
      rfl

/-- A stream has a byte for every message at least. -/
theorem length_le_frames (payloads : List (List UInt8)) :
    payloads.length ≤ (payloads.flatMap frame).length := by
  induction payloads with
  | nil => exact Nat.le_refl 0
  | cons payload payloads ih =>
    rw [List.flatMap_cons, List.length_append, List.length_cons, frame, List.length_append,
      List.length_cons]
    omega

/-- The receiver gives the messages back that were framed. -/
theorem receive_frames (payloads : List (List UInt8)) :
    receive (payloads.flatMap frame) = some payloads :=
  receiveUpTo_frames (length_le_frames payloads)

/-- No two lists of messages make one stream. -/
theorem frames_injective {payloads others : List (List UInt8)}
    (same : payloads.flatMap frame = others.flatMap frame) : payloads = others := by
  have received := congrArg receive same
  rw [receive_frames, receive_frames] at received
  exact Option.some.inj received

end TacacsWeb.Library.OctetCounting
