import TacacsWeb.Library.LdapFilter
import TacacsWeb.Model.Ldap3Client

/-!
# The filter of a membership search

The DN of an account goes into the filter by five replacements, one over the result of the other.
Together they write every character as a value holds it, so the filter is one extensible match whose
value is the DN, whatever stands in the DN.
-/

namespace TacacsWeb.Verif

open TacacsWeb.Library TacacsWeb.Library.Text TacacsWeb.Library.LdapFilter TacacsWeb.Model

/-! ## The statement -/

/-- The pairs of digits that stand for the characters that are replaced. -/
def hexPairs : List (List Char) := ["5c", "28", "29", "00", "2a"].map String.toList

/-- A text denotes a string, as the bytes that encode it, and is safe in a filter: it holds no raw
parenthesis, asterisk or NUL, and no backslash but before one of the pairs of digits. -/
structure DenotesSafely (text value : String) : Prop where
  /-- Decoding gives the string back. -/
  decoded : decodeValue text.toList = some (Utf8.encode value.toList)
  /-- No raw special character. -/
  clean : ∀ char ∈ ['(', ')', '*', '\x00'], char ∉ text.toList
  /-- No stray backslash. -/
  paired : ∀ before after, text.toList = before ++ '\\' :: after →
    ∃ pair ∈ hexPairs, ∃ rest, after = pair ++ rest

/-- The groups of an account are searched with a filter. -/
def SearchesWith (userDn filter : String) : Prop :=
  ∀ (client : LdapClient) (baseDn : PyString) (groupCache : GroupCache) (pageSize : Nat),
    resolveGroupsForUser client baseDn userDn groupCache pageSize =
      forEntries (client.search baseDn filter groupAttrs pageSize)
        (fun state entry => .ok (resolveGroup state entry)) ([], groupCache)

/-! ## The escape -/

/-- The replacements, one after the other, write every character as a value holds it. -/
theorem toList_escapeFilterValue (value : String) :
    (escapeFilterValue value).toList = escapeValue value.toList := by
  simp only [escapeFilterValue, toList_replaceChar, escapeValue]
  induction value.toList with
  | nil => rfl
  | cons char chars ih =>
    simp only [List.flatMap_cons, List.flatMap_append, ih]
    congr 1
    by_cases special : isSpecial char = true
    · simp only [isSpecial, Bool.or_eq_true, decide_eq_true_eq] at special
      rcases special with (((rfl | rfl) | rfl) | rfl) | rfl <;> rfl
    · have others : char ≠ '\\' ∧ char ≠ '(' ∧ char ≠ ')' ∧ char ≠ '\x00' ∧ char ≠ '*' := by
        refine ⟨?_, ?_, ?_, ?_, ?_⟩ <;> rintro rfl <;> exact special rfl
      simp [escapeChar, special, others]

/-- The digits of a special character are one of the pairs. -/
theorem hexDigits_mem_hexPairs {special : Char} (isOne : isSpecial special = true) :
    hexDigits 2 special.toNat ∈ hexPairs := by
  simp only [isSpecial, Bool.or_eq_true, decide_eq_true_eq] at isOne
  rcases isOne with (((rfl | rfl) | rfl) | rfl) | rfl <;> decide

/-- An escaped value denotes the value safely. -/
theorem escapeFilterValue_denotes (value : String) :
    DenotesSafely (escapeFilterValue value) value := by
  have written := toList_escapeFilterValue value
  constructor
  · rw [written]
    exact decodeValue_escapeValue value.toList
  · intro char listed
    rw [written]
    have special : isSpecial char = true ∧ char ≠ '\\' := by
      revert char
      exact forall_of_all (by decide)
    exact notMem_escapeValue special.1 special.2 value.toList
  · intro before after same
    rw [written] at same
    obtain ⟨special, rest, isOne, digits⟩ := escapeValue_backslash same
    exact ⟨_, hexDigits_mem_hexPairs isOne, rest, digits⟩

/-! ## The filter -/

/-- The attribute and the rule of the search are names. -/
theorem member_names : MatchNames "member".toList transitiveMemberRule.toList where
  attrDescribed := by decide +kernel
  attrNamed := forall_of_all (by decide +kernel)
  ruleIdentified := by decide +kernel
  ruleNamed := forall_of_all (by decide +kernel)
  ruleHead := by
    intro first head
    obtain rfl : '1' = first := Option.some.inj head
    decide

/-- For every DN, the escaped text denotes the DN safely, and the filter that the groups are
searched with is one extensible match, whose value is the DN. -/
theorem memberFilter_one_item (userDn : String) :
    DenotesSafely (escapeFilterValue userDn) userDn ∧
      ∃ filter, SearchesWith userDn filter ∧
        parse filter.toList = some (.extensible (some "member") false (some transitiveMemberRule)
          (Utf8.encode userDn.toList)) := by
  refine ⟨escapeFilterValue_denotes userDn,
    "(member:" ++ transitiveMemberRule ++ ":=" ++ escapeFilterValue userDn ++ ")",
    fun _ _ _ _ => rfl, ?_⟩
  have parsed := parse_written member_names userDn.toList
  have shape : ("(member:" ++ transitiveMemberRule ++ ":=" ++ escapeFilterValue userDn ++
      ")").toList =
        '(' :: (writeMatch "member".toList transitiveMemberRule.toList userDn.toList ++ [')']) := by
    simp only [String.toList_append, toList_escapeFilterValue, writeMatch]
    simp
  rw [shape, parsed, String.ofList_toList, String.ofList_toList]

end TacacsWeb.Verif
