import Mathlib.Algebra.Group.Nat.Defs

/-!
# Numbers in bytes

A number in so many bytes, the least significant one first or last. Either is read back as the
number when the number fits.
-/

namespace TacacsWeb.Library.ByteOrder

/-- `value.to_bytes(width, "little")`, of the bytes that fit. -/
def toLittle : Nat → Nat → List UInt8
  | 0, _ => []
  | width + 1, value => UInt8.ofNat value :: toLittle width (value / 256)

/-- `int.from_bytes(bytes, "little")`. -/
def fromLittle : List UInt8 → Nat
  | [] => 0
  | byte :: bytes => byte.toNat + 256 * fromLittle bytes

/-- `value.to_bytes(width, "big")`, of the bytes that fit. -/
def toBig (width value : Nat) : List UInt8 := (toLittle width value).reverse

/-- `int.from_bytes(bytes, "big")`. -/
def fromBig (bytes : List UInt8) : Nat := bytes.foldl (fun value byte => value * 256 + byte.toNat) 0

/-- A number that fits is read back. -/
theorem fromLittle_toLittle {width value : Nat} (fits : value < 256 ^ width) :
    fromLittle (toLittle width value) = value := by
  induction width generalizing value with
  | zero =>
    have zero : value = 0 := by simpa using fits
    rw [zero]
    rfl
  | succ width ih =>
    have others : value / 256 < 256 ^ width := by
      apply Nat.div_lt_of_lt_mul
      rw [Nat.mul_comm, ← Nat.pow_succ]
      exact fits
    have first : (UInt8.ofNat value).toNat = value % 256 := UInt8.toNat_ofNat'
    rw [toLittle, fromLittle, ih others, first]
    omega

/-- The two orders are each other's reverse. -/
theorem fromBig_reverse (bytes : List UInt8) : fromBig bytes.reverse = fromLittle bytes := by
  rw [fromBig, List.foldl_reverse]
  induction bytes with
  | nil => rfl
  | cons byte bytes ih =>
    rw [List.foldr_cons, ih, fromLittle]
    omega

/-- A number that fits is read back. -/
theorem fromBig_toBig {width value : Nat} (fits : value < 256 ^ width) :
    fromBig (toBig width value) = value := by
  rw [toBig, fromBig_reverse, fromLittle_toLittle fits]

end TacacsWeb.Library.ByteOrder
