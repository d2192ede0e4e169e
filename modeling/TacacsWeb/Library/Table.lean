import Mathlib.Data.List.Nodup

/-!
# Rows with a primary key

A table as the list of its rows. A uniqueness constraint is a relation between any two rows,
so what an `UPDATE` or an `INSERT` keeps is one statement about pairwise relations, whatever
the constraint is.
-/

namespace TacacsWeb.Library

variable {Row Key : Type} {rows : List Row} {row : Row}

section Keyed

variable [DecidableEq Key] {key : Row → Key}

/-- `UPDATE`: the row with the same key is replaced. -/
def replaceRow (key : Row → Key) (row : Row) (rows : List Row) : List Row :=
  rows.map fun other => if key other = key row then row else other

/-- The rows after a replacement are the new one and those with other keys. -/
theorem mem_replaceRow {found : Row} (listed : found ∈ replaceRow key row rows) :
    found = row ∨ found ∈ rows ∧ key found ≠ key row := by
  obtain ⟨other, present, rfl⟩ := List.mem_map.mp listed
  by_cases same : key other = key row
  · exact .inl (if_pos same)
  · rw [if_neg same]
    exact .inr ⟨present, same⟩

/-- The new row is there when its key was. -/
theorem mem_replaceRow_self (present : ∃ other ∈ rows, key other = key row) :
    row ∈ replaceRow key row rows := by
  obtain ⟨other, listed, same⟩ := present
  exact List.mem_map.mpr ⟨other, listed, if_pos same⟩

/-- Rows with other keys stay. -/
theorem mem_replaceRow_of_ne {other : Row} (listed : other ∈ rows)
    (different : key other ≠ key row) : other ∈ replaceRow key row rows :=
  List.mem_map.mpr ⟨other, listed, if_neg different⟩

/-- A replacement changes no key. -/
theorem map_key_replaceRow : (replaceRow key row rows).map key = rows.map key := by
  rw [replaceRow, List.map_map]
  refine List.map_congr_left fun other _ => ?_
  by_cases same : key other = key row
  · simp [same]
  · simp [same]

/-- A symmetric relation between the rows holds after a replacement when it held before and
holds between the new row and those with other keys. -/
theorem pairwise_replaceRow {related : Row → Row → Prop} (distinct : (rows.map key).Nodup)
    (before : rows.Pairwise related) (symmetric : ∀ left right, related left right →
      related right left) (fits : ∀ other ∈ rows, key other ≠ key row → related other row) :
    (replaceRow key row rows).Pairwise related := by
  rw [replaceRow, List.pairwise_map]
  have keys : rows.Pairwise fun left right => key left ≠ key right := List.pairwise_map.mp distinct
  refine (before.and keys).imp_of_mem fun {left right} first second both => ?_
  by_cases old : key left = key row
  · have other : key right ≠ key row := fun same => both.2 (old.trans same.symm)
    simp only [if_pos old, if_neg other]
    exact symmetric _ _ (fits right second other)
  · by_cases new : key right = key row
    · simp only [if_neg old, if_pos new]
      exact fits left first old
    · simp only [if_neg old, if_neg new]
      exact both.1

/-- A replacement leaves the rows with other keys. -/
theorem filter_replaceRow (key : Row → Key) (row : Row) :
    ((replaceRow key row rows).filter fun other => key other ≠ key row) =
      rows.filter fun other => key other ≠ key row := by
  induction rows with
  | nil => rfl
  | cons first rest ih =>
    simp only [replaceRow, List.map_cons] at ih ⊢
    by_cases same : key first = key row
    · simp only [if_pos same]
      rw [List.filter_cons_of_neg (by simp), List.filter_cons_of_neg (by simp [same]), ih]
    · simp only [if_neg same]
      rw [List.filter_cons_of_pos (by simp [same]), List.filter_cons_of_pos (by simp [same]), ih]

/-- A replacement leaves the keys that there are. -/
theorem exists_key_replaceRow {value : Key} :
    (∃ other ∈ replaceRow key row rows, key other = value) ↔ ∃ other ∈ rows, key other = value := by
  have keys : value ∈ (replaceRow key row rows).map key ↔ value ∈ rows.map key := by
    rw [map_key_replaceRow]
  simpa only [List.mem_map] using keys

/-- Values that are distinct stay so when the new row has none of those in rows with other keys. -/
theorem nodup_map_replaceRow {Value : Type} {value : Row → Value} (distinct : (rows.map key).Nodup)
    (before : (rows.map value).Nodup)
    (fresh : ∀ other ∈ rows, key other ≠ key row → value other ≠ value row) :
    ((replaceRow key row rows).map value).Nodup :=
  List.pairwise_map.mpr (pairwise_replaceRow distinct (List.pairwise_map.mp before)
    (fun _ _ => Ne.symm) fresh)

/-- An insertion leaves the rows with other keys. -/
theorem filter_insertRow (key : Row → Key) (row : Row) :
    ((rows ++ [row]).filter fun other => key other ≠ key row) =
      rows.filter fun other => key other ≠ key row := by
  simp

end Keyed

/-- A relation between the rows holds after an insertion when it held before and holds
between every row and the new one. -/
theorem pairwise_insertRow {related : Row → Row → Prop} (before : rows.Pairwise related)
    (fits : ∀ other ∈ rows, related other row) : (rows ++ [row]).Pairwise related :=
  List.pairwise_append.mpr ⟨before, List.pairwise_singleton _ _, fun other listed last new => by
    obtain rfl := List.mem_singleton.mp new
    exact fits other listed⟩

/-- Values that are distinct stay so when the new row has none of them. -/
theorem nodup_map_insertRow {Value : Type} {value : Row → Value} (before : (rows.map value).Nodup)
    (fresh : ∀ other ∈ rows, value other ≠ value row) : ((rows ++ [row]).map value).Nodup :=
  List.pairwise_map.mpr (pairwise_insertRow (List.pairwise_map.mp before) fresh)

/-- A unique column stays unique with a new value, also where some rows have none. -/
theorem nodup_filterMap_insertRow {Value : Type} {value : Row → Option Value}
    (before : (rows.filterMap value).Nodup)
    (fresh : ∀ given ∈ value row, ∀ other ∈ rows, value other ≠ some given) :
    ((rows ++ [row]).filterMap value).Nodup := by
  rw [List.filterMap_append, List.nodup_append]
  refine ⟨before, ?_, ?_⟩
  · cases given : value row with
    | none => simp [given]
    | some held => simp [given]
  · intro held listed new inserted same
    obtain ⟨other, present, valued⟩ := List.mem_filterMap.mp listed
    obtain ⟨last, only, given⟩ := List.mem_filterMap.mp inserted
    rw [List.mem_singleton.mp only] at given
    exact fresh new given other present (valued.trans (congrArg some same))

/-- Where no two rows meet a condition, it selects the one row that does. -/
theorem filter_eq_singleton {condition : Row → Bool}
    (alone : rows.Pairwise fun left right => ¬(condition left ∧ condition right))
    (listed : row ∈ rows) (met : condition row) : rows.filter condition = [row] := by
  induction rows with
  | nil => cases listed
  | cons first rest ih =>
    rw [List.pairwise_cons] at alone
    rcases List.mem_cons.mp listed with rfl | later
    · rw [List.filter_cons_of_pos met, List.filter_eq_nil_iff.mpr]
      exact fun other present also => alone.1 other present ⟨met, also⟩
    · have unmet : ¬condition first := fun also => alone.1 row later ⟨also, met⟩
      rw [List.filter_cons_of_neg unmet]
      exact ih alone.2 later

/-- Where at most one row meets a condition, a search finds the row that does. -/
theorem find_eq_some_iff {condition : Row → Bool}
    (unique : ∀ left ∈ rows, ∀ right ∈ rows,
      condition left = true → condition right = true → left = right) :
    rows.find? condition = some row ↔ row ∈ rows ∧ condition row = true := by
  constructor
  · intro found
    exact ⟨List.mem_of_find?_eq_some found, List.find?_some found⟩
  · rintro ⟨listed, met⟩
    cases found : rows.find? condition with
    | none => exact absurd met (List.find?_eq_none.mp found row listed)
    | some other =>
      rw [unique other (List.mem_of_find?_eq_some found) row listed (List.find?_some found) met]

/-- Where keys are distinct, a search for a key finds the row with that key. -/
theorem find_key_eq_some_iff [DecidableEq Key] {key : Row → Key} {value : Key}
    (distinct : (rows.map key).Nodup) :
    (rows.find? fun other => key other = value) = some row ↔ row ∈ rows ∧ key row = value := by
  rw [find_eq_some_iff fun left leftListed right rightListed leftMet rightMet =>
    List.inj_on_of_nodup_map distinct leftListed rightListed
      ((of_decide_eq_true leftMet).trans (of_decide_eq_true rightMet).symm), decide_eq_true_eq]

section Lookup

variable [DecidableEq Key] {key : Row → Key} {value : Key}

/-- A replacement changes no search for another key. -/
theorem find_replaceRow_of_ne (different : value ≠ key row) :
    (replaceRow key row rows).find? (fun other => key other = value) =
      rows.find? fun other => key other = value := by
  induction rows with
  | nil => rfl
  | cons first rest ih =>
    simp only [replaceRow, List.map_cons, List.find?_cons] at ih ⊢
    by_cases same : key first = key row
    · have unasked : ¬key first = value := fun asked => different (asked.symm.trans same)
      simp only [if_pos same, decide_eq_false (Ne.symm different), decide_eq_false unasked, ih]
    · simp only [if_neg same, ih]

/-- A search for the key of a replaced row finds the new one. -/
theorem find_replaceRow_self (present : ∃ other ∈ rows, key other = key row) :
    (replaceRow key row rows).find? (fun other => key other = key row) = some row := by
  induction rows with
  | nil =>
    obtain ⟨other, listed, _⟩ := present
    exact absurd listed List.not_mem_nil
  | cons first rest ih =>
    simp only [replaceRow, List.map_cons, List.find?_cons] at ih ⊢
    by_cases same : key first = key row
    · simp only [if_pos same, decide_true]
    · have later : ∃ other ∈ rest, key other = key row := by
        obtain ⟨other, listed, keyed⟩ := present
        rcases List.mem_cons.mp listed with rfl | listed
        · exact absurd keyed same
        · exact ⟨other, listed, keyed⟩
      simp only [if_neg same, decide_eq_false same, ih later]

/-- After the rows of a key were deleted a search for it finds none, and others find the same. -/
theorem find_deleteKey (deleted : Key) :
    (rows.filter fun other => key other ≠ deleted).find? (fun other => key other = value) =
      if value = deleted then none else rows.find? fun other => key other = value := by
  rw [List.find?_filter]
  by_cases same : value = deleted
  · rw [if_pos same, List.find?_eq_none]
    intro other _ found
    simp only [ne_eq, same, decide_not, Bool.not_eq_true', decide_eq_false_iff_not,
      decide_eq_true_eq] at found
    exact found.1 found.2
  · rw [if_neg same]
    congr 1
    funext other
    by_cases asked : key other = value
    · simp [asked, same]
    · simp [asked]

end Lookup

/-- The last item that meets a test. -/
theorem exists_last {Item : Type} {holds : Item → Prop} {items : List Item}
    (present : ∃ item ∈ items, holds item) :
    ∃ front item back, items = front ++ item :: back ∧ holds item ∧
      ∀ later ∈ back, ¬holds later := by
  induction items with
  | nil =>
    obtain ⟨item, listed, -⟩ := present
    cases listed
  | cons first rest ih =>
    by_cases later : ∃ item ∈ rest, holds item
    · obtain ⟨front, item, back, same, met, none⟩ := ih later
      exact ⟨first :: front, item, back, by rw [same, List.cons_append], met, none⟩
    · obtain ⟨item, listed, met⟩ := present
      cases listed with
      | head => exact ⟨[], first, rest, rfl, met, fun other there met => later ⟨other, there, met⟩⟩
      | tail _ listed => exact absurd ⟨item, listed, met⟩ later

end TacacsWeb.Library
