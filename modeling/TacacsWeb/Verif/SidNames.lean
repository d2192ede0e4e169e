import TacacsWeb.Library.ByteOrder
import TacacsWeb.Model.Ldap3Client

/-!
# The names of security identifiers

A group is known by the text of its SID. The binary form of a SID is read as the text that names it,
and no other SID has that text; bytes that are too short for the sub-authorities that they announce
have none.
-/

namespace TacacsWeb.Verif

open TacacsWeb.Library TacacsWeb.Library.Text TacacsWeb.Library.ByteOrder TacacsWeb.Model

/-! ## The statement -/

/-- A SID that has a binary form. -/
structure Sid where
  /-- The revision. -/
  revision : Nat
  /-- The identifier authority. -/
  authority : Nat
  /-- The sub-authorities. -/
  subAuthorities : List Nat
  /-- The revision takes a byte. -/
  revisionFits : revision < 256
  /-- The identifier authority takes six. -/
  authorityFits : authority < 2 ^ 48
  /-- The number of sub-authorities takes one. -/
  countFits : subAuthorities.length ≤ 255
  /-- Every sub-authority takes four. -/
  subAuthorityFits : ∀ sub ∈ subAuthorities, sub < 2 ^ 32

/-- The binary form. -/
def Sid.bytes (sid : Sid) : List UInt8 :=
  UInt8.ofNat sid.revision :: UInt8.ofNat sid.subAuthorities.length :: toBig 6 sid.authority ++
    sid.subAuthorities.flatMap (toLittle 4)

/-- The text: the numbers in decimal digits, each behind a hyphen. -/
def Sid.text (sid : Sid) : String :=
  String.ofList ('S' :: (sid.revision :: sid.authority :: sid.subAuthorities).flatMap fun number =>
    '-' :: (toString number).toList)

/-- How many sub-authorities some bytes announce. -/
def announced (blob : List UInt8) : Nat := (blob.getD 1 0).toNat

/-! ## Reading the sub-authorities -/

/-- One sub-authority is read from its four bytes. -/
theorem subAuthorities_toLittle {sub : Nat} (fits : sub < 2 ^ 32) (count : Nat)
    (rest : List UInt8) :
    subAuthorities (count + 1) (toLittle 4 sub ++ rest) =
      (subAuthorities count rest).map fun others => sub :: others := by
  have four : sub < 256 ^ 4 := by omega
  have value := fromLittle_toLittle four
  simp only [toLittle, fromLittle, Nat.mul_zero, Nat.add_zero] at value
  simp only [toLittle, List.cons_append, List.nil_append, subAuthorities, value]

/-- The sub-authorities are read back, whatever follows them. -/
theorem subAuthorities_bytes {subs : List Nat} (fits : ∀ sub ∈ subs, sub < 2 ^ 32)
    (trailing : List UInt8) :
    subAuthorities subs.length (subs.flatMap (toLittle 4) ++ trailing) = some subs := by
  induction subs with
  | nil => rfl
  | cons sub subs ih =>
    have first := fits sub List.mem_cons_self
    have others := ih fun other listed => fits other (List.mem_cons_of_mem sub listed)
    rw [List.length_cons, List.flatMap_cons, List.append_assoc, subAuthorities_toLittle first,
      others, Option.map_some]

/-- Bytes that are enough have a first one. -/
theorem exists_first {count : Nat} {bytes : List UInt8} (enough : count + 1 ≤ bytes.length) :
    ∃ first rest, bytes = first :: rest ∧ count ≤ rest.length := by
  cases bytes with
  | nil => exact absurd enough (Nat.not_succ_le_zero count)
  | cons first rest => exact ⟨first, rest, rfl, Nat.le_of_succ_le_succ enough⟩

/-- Bytes that are enough have four first ones. -/
theorem exists_four {count : Nat} {bytes : List UInt8} (enough : count + 4 ≤ bytes.length) :
    ∃ a b c d rest, bytes = a :: b :: c :: d :: rest ∧ count ≤ rest.length := by
  obtain ⟨a, afterFirst, first, three⟩ := exists_first enough
  obtain ⟨b, afterSecond, second, two⟩ := exists_first three
  obtain ⟨c, afterThird, third, one⟩ := exists_first two
  obtain ⟨d, rest, fourth, left⟩ := exists_first one
  refine ⟨a, b, c, d, rest, ?_, left⟩
  rw [first, second, third, fourth]

/-- Sub-authorities are missing exactly when the bytes are too few. -/
theorem subAuthorities_eq_none_iff (count : Nat) (bytes : List UInt8) :
    subAuthorities count bytes = none ↔ bytes.length < 4 * count := by
  fun_induction subAuthorities count bytes with
  | case1 => simp
  | case2 count a b c d rest ih =>
    rw [Option.map_eq_none_iff, ih]
    simp only [List.length_cons]
    omega
  | case3 count bytes short =>
    have few : bytes.length < 4 := by
      apply Nat.lt_of_not_le
      intro enough
      obtain ⟨a, b, c, d, rest, same, _⟩ := @exists_four 0 bytes enough
      exact short a b c d rest same
    constructor
    · intro _
      omega
    · intro _
      rfl

/-! ## The text -/

/-- The digits of a number hold no hyphen. -/
theorem hyphen_notMem_toString (number : Nat) : '-' ∉ (toString number).toList := by
  intro listed
  have digits : '-' ∈ Nat.toDigits 10 number := by
    rw [← Nat.toList_repr]
    exact listed
  have digit := Nat.isDigit_of_mem_toDigits (by decide) (by decide) digits
  revert digit
  decide

/-- The digits of a number are those of no other. -/
theorem toString_number_injective {first second : Nat}
    (same : (toString first).toList = (toString second).toList) : first = second := by
  have digits : Nat.toDigits 10 first = Nat.toDigits 10 second := by
    rw [← Nat.toList_repr, ← Nat.toList_repr]
    exact same
  rw [← @Nat.ofDigitChars_ten_toDigits first, digits, Nat.ofDigitChars_ten_toDigits]

/-- The text of a SID has a hyphen between its parts. -/
theorem Sid.toList_text (sid : Sid) :
    sid.text.toList = ['-'].intercalate (['S'] ::
      (sid.revision :: sid.authority :: sid.subAuthorities).map fun number =>
        (toString number).toList) := by
  rw [Sid.text, String.toList_ofList, intercalate_cons, List.flatMap_map]
  rfl

/-- The text of a SID as the code puts it together. -/
theorem Sid.text_eq_intercalate (sid : Sid) :
    "-".intercalate (s!"S-{sid.revision}-{sid.authority}" ::
      sid.subAuthorities.map fun sub => toString sub) = sid.text := by
  apply String.toList_inj.mp
  rw [String.toList_intercalate, List.map_cons, intercalate_cons, List.map_map, List.flatMap_map,
    Sid.text, String.toList_ofList]
  simp [String.toList_append, toString]

/-- Split at its hyphens, the text of a SID gives its parts. -/
theorem Sid.splitOn_text (sid : Sid) :
    sid.text.toList.splitOn '-' = ['S'] ::
      (sid.revision :: sid.authority :: sid.subAuthorities).map fun number =>
        (toString number).toList := by
  rw [Sid.toList_text]
  apply List.splitOn_intercalate
  · intro part listed
    cases List.mem_cons.mp listed with
    | inl mark =>
      rw [mark]
      decide
    | inr numbered =>
      obtain ⟨number, _, written⟩ := List.mem_map.mp numbered
      rw [← written]
      exact hyphen_notMem_toString number
  · exact List.cons_ne_nil _ _

/-- A SID is known by its numbers. -/
theorem Sid.ext_numbers {first second : Sid}
    (same : first.revision :: first.authority :: first.subAuthorities =
      second.revision :: second.authority :: second.subAuthorities) : first = second := by
  cases first
  cases second
  simp only [List.cons.injEq] at same
  obtain ⟨revision, authority, subAuthorities⟩ := same
  subst revision authority subAuthorities
  rfl

/-- No two SIDs have the same text. -/
theorem Sid.text_injective {first second : Sid} (same : first.text = second.text) :
    first = second := by
  have parts := congrArg (fun text => text.toList.splitOn '-') same
  simp only [Sid.splitOn_text] at parts
  apply Sid.ext_numbers
  apply List.map_injective_iff.mpr _ (List.cons.inj parts).2
  intro one other written
  exact toString_number_injective written

/-! ## The result -/

/-- The bytes of a SID are read as its text, whatever follows them. -/
theorem formatSid_bytes (sid : Sid) (trailing : List UInt8) :
    formatSid (some (sid.bytes ++ trailing)) = some sid.text := by
  have authorityFits : sid.authority < 256 ^ 6 := by
    have fits := sid.authorityFits
    omega
  have authority := fromBig_toBig authorityFits
  have revision : (UInt8.ofNat sid.revision).toNat = sid.revision := by
    rw [UInt8.toNat_ofNat']
    exact Nat.mod_eq_of_lt sid.revisionFits
  have count : (UInt8.ofNat sid.subAuthorities.length).toNat = sid.subAuthorities.length := by
    rw [UInt8.toNat_ofNat']
    exact Nat.mod_eq_of_lt (Nat.lt_succ_of_le sid.countFits)
  have subs := subAuthorities_bytes sid.subAuthorityFits trailing
  have six : ∃ a b c d e f, toBig 6 sid.authority = [a, b, c, d, e, f] := ⟨_, _, _, _, _, _, rfl⟩
  obtain ⟨a, b, c, d, e, f, bytes⟩ := six
  rw [bytes, fromBig] at authority
  have shape : sid.bytes ++ trailing =
      UInt8.ofNat sid.revision :: UInt8.ofNat sid.subAuthorities.length :: a :: b :: c :: d :: e ::
        f :: (sid.subAuthorities.flatMap (toLittle 4) ++ trailing) := by
    simp only [Sid.bytes, bytes, List.cons_append, List.nil_append]
  rw [shape]
  simp only [formatSid, revision, count, authority, subs, Option.map_some]
  rw [Sid.text_eq_intercalate]

/-- Bytes have no text exactly when they are too short. -/
theorem formatSid_eq_none_iff (blob : List UInt8) :
    formatSid (some blob) = none ↔
      blob.length < 8 ∨ blob.length < 8 + 4 * announced blob := by
  by_cases short : blob.length < 8
  · have none : formatSid (some blob) = none := by
      unfold formatSid
      split
      · rename_i same
        have long := congrArg List.length (Option.some.inj same)
        simp only [List.length_cons] at long
        omega
      · rfl
    simp [none, short]
  · have long : 4 + 4 ≤ blob.length := Nat.le_of_not_lt short
    obtain ⟨revision, count, a, b, others, rfl, enough⟩ := exists_four long
    obtain ⟨c, d, e, f, rest, rfl, _⟩ := @exists_four 0 others enough
    have number : announced (revision :: count :: a :: b :: c :: d :: e :: f :: rest) =
        count.toNat := rfl
    simp only [formatSid, Option.map_eq_none_iff, subAuthorities_eq_none_iff, number,
      List.length_cons]
    omega

/-- The bytes of a SID are read as its text, whatever follows them; the bytes of different SIDs are
read as different texts; and bytes have no text exactly when there are fewer than eight, or fewer
than the sub-authorities take that they announce. -/
theorem formatSid_faithful :
    (∀ (sid : Sid) (trailing : List UInt8),
      formatSid (some (sid.bytes ++ trailing)) = some sid.text) ∧
    (∀ (first second : Sid) (firstTrailing secondTrailing : List UInt8),
      formatSid (some (first.bytes ++ firstTrailing)) =
        formatSid (some (second.bytes ++ secondTrailing)) → first = second) ∧
    ∀ blob : List UInt8, formatSid (some blob) = none ↔
      blob.length < 8 ∨ blob.length < 8 + 4 * announced blob := by
  refine ⟨formatSid_bytes, ?_, formatSid_eq_none_iff⟩
  intro first second firstTrailing secondTrailing same
  rw [formatSid_bytes, formatSid_bytes] at same
  exact Sid.text_injective (Option.some.inj same)

end TacacsWeb.Verif
