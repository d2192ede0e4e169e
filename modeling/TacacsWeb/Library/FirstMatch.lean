import Mathlib.Data.List.Basic

/-!
# The first match of an ordered list

The first entry of a list that a test accepts: it depends on the accepted entries and their order
only, a wider test finds it or an earlier one, and in a list that descends it is the greatest
accepted entry.
-/

namespace TacacsWeb.Library

variable {Entry : Type} {test wider : Entry → Bool} {entries others : List Entry} {found : Entry}

/-- Lists with the same accepted entries in the same order have one first match. -/
theorem find?_eq_of_filter (same : others.filter test = entries.filter test) :
    others.find? test = entries.find? test := by
  rw [← List.head?_filter, ← List.head?_filter, same]

/-- Behind entries that are refused, the first match is the next accepted entry. -/
theorem find?_append_cons {before after : List Entry}
    (refused : ∀ entry ∈ before, test entry = false)
    (accepted : test found = true) : (before ++ found :: after).find? test = some found := by
  apply List.find?_eq_some_iff_append.mpr
  refine ⟨accepted, before, after, rfl, fun entry listed => ?_⟩
  rw [refused entry listed]
  rfl

/-- In a list that descends, no accepted entry is above the first match. -/
theorem le_of_find? (rank : Entry → Nat)
    (descends : entries.Pairwise fun left right => rank right ≤ rank left)
    (first : entries.find? test = some found) {entry : Entry} (listed : entry ∈ entries)
    (accepted : test entry = true) : rank entry ≤ rank found := by
  induction entries with
  | nil => cases listed
  | cons head tail ih =>
    have below := List.pairwise_cons.mp descends
    by_cases hit : test head = true
    · rw [List.find?_cons_of_pos hit] at first
      cases first
      cases listed with
      | head => exact Nat.le_refl _
      | tail _ later => exact below.1 entry later
    · rw [List.find?_cons_of_neg hit] at first
      cases listed with
      | head => exact absurd accepted hit
      | tail _ later => exact ih below.2 first later

/-- A wider test has a first match too, and in a list that descends none below. -/
theorem find?_widen (rank : Entry → Nat)
    (descends : entries.Pairwise fun left right => rank right ≤ rank left)
    (widens : ∀ entry, test entry = true → wider entry = true)
    (first : entries.find? test = some found) :
    ∃ above, entries.find? wider = some above ∧ rank found ≤ rank above := by
  have accepted := widens found (List.find?_some first)
  have listed := List.mem_of_find?_eq_some first
  cases widened : entries.find? wider with
  | none => exact absurd accepted (List.find?_eq_none.mp widened found listed)
  | some above => exact ⟨above, rfl, le_of_find? rank descends widened listed accepted⟩

end TacacsWeb.Library
