import Mathlib.Data.List.Nodup
import Mathlib.Data.List.Induction

/-!
# Labels with a second choice

Items come one after another. Each gets the label it wants unless that is gone, and a second label
of its own otherwise, which nobody checks. So two items can end up with one label, and they do
exactly when a second label is one that an earlier item wants.
-/

namespace TacacsWeb.Library

variable {Item Label : Type} (wanted renamed : Item → Label)

/-- An item finds its label gone: an earlier one wants it, or is renamed to it. -/
inductive Renamed : List Item → Item → Prop where
  /-- An earlier item wants the label. -/
  | wanted {before : List Item} {earlier item : Item} (met : earlier ∈ before)
      (same : wanted earlier = wanted item) : Renamed before item
  /-- An earlier item is renamed to the label. -/
  | renamed {before between : List Item} {earlier item : Item} (moved : Renamed before earlier)
      (same : renamed earlier = wanted item) : Renamed (before ++ earlier :: between) item

/-- An item is renamed to a label that an earlier one wants. -/
def Collides (items : List Item) : Prop :=
  ∃ before item later, items = before ++ item :: later ∧ Renamed wanted renamed before item ∧
    ∃ earlier ∈ before, wanted earlier = renamed item

variable {wanted renamed}

/-- The two ways in which a label is gone. -/
theorem renamed_iff {before : List Item} {item : Item} :
    Renamed wanted renamed before item ↔
      (∃ earlier ∈ before, wanted earlier = wanted item) ∨
        ∃ first earlier between, before = first ++ earlier :: between ∧
          Renamed wanted renamed first earlier ∧ renamed earlier = wanted item := by
  constructor
  · intro moved
    cases moved with
    | wanted met same => exact .inl ⟨_, met, same⟩
    | renamed moved same => exact .inr ⟨_, _, _, rfl, moved, same⟩
  · intro gone
    rcases gone with want | rename
    · obtain ⟨earlier, met, same⟩ := want
      exact .wanted met same
    · obtain ⟨first, earlier, between, split, moved, same⟩ := rename
      rw [split]
      exact .renamed moved same

/-- Of some items and one more, the one more collides or some of the others do. -/
theorem collides_append {items : List Item} {item : Item} :
    Collides wanted renamed (items ++ [item]) ↔
      Collides wanted renamed items ∨
        Renamed wanted renamed items item ∧ ∃ earlier ∈ items, wanted earlier = renamed item := by
  constructor
  · intro collides
    obtain ⟨before, last, later, split, moved, held⟩ := collides
    cases later using List.reverseRecOn with
    | nil =>
      obtain ⟨sameItems, sameItem⟩ := List.append_inj' split rfl
      have same : item = last := List.singleton_inj.mp sameItem
      rw [same, sameItems]
      exact .inr ⟨moved, held⟩
    | append_singleton later final =>
      have regrouped : items ++ [item] = (before ++ last :: later) ++ [final] := by
        rw [split]
        simp
      exact .inl ⟨before, last, later, (List.append_inj' regrouped rfl).1, moved, held⟩
  · intro collides
    rcases collides with inside | last
    · obtain ⟨before, moved, later, split, rest⟩ := inside
      refine ⟨before, moved, later ++ [item], ?_, rest⟩
      rw [split]
      simp
    · exact ⟨items, item, [], rfl, last⟩

variable [DecidableEq Label]

variable (wanted renamed) in
/-- The label that an item gets beside some labels. -/
def labelBeside (labels : List Label) (item : Item) : Label :=
  if wanted item ∈ labels then renamed item else wanted item

variable (wanted renamed) in
/-- The labels that some items get. -/
def relabel (items : List Item) : List Label :=
  items.foldl (fun labels item => labels ++ [labelBeside wanted renamed labels item]) []

/-- One more item gets its label beside those of the others. -/
theorem relabel_append (items : List Item) (item : Item) :
    relabel wanted renamed (items ++ [item]) =
      relabel wanted renamed items ++
        [labelBeside wanted renamed (relabel wanted renamed items) item] := by
  simp only [relabel, List.foldl_append, List.foldl_cons, List.foldl_nil]

/-- A label is in use when an item wants it, whether it got it or not, or is renamed to it. -/
theorem mem_relabel {items : List Item} {label : Label} :
    label ∈ relabel wanted renamed items ↔
      (∃ item ∈ items, wanted item = label) ∨
        ∃ before item later, items = before ++ item :: later ∧
          Renamed wanted renamed before item ∧ renamed item = label := by
  induction items using List.reverseRecOn generalizing label with
  | nil => simp [relabel]
  | append_singleton items item ih =>
    have gone : wanted item ∈ relabel wanted renamed items ↔
        Renamed wanted renamed items item := ih.trans renamed_iff.symm
    rw [relabel_append, List.mem_append, List.mem_singleton]
    constructor
    · intro used
      rcases used with earlier | last
      · rcases ih.mp earlier with want | rename
        · obtain ⟨other, met, same⟩ := want
          exact .inl ⟨other, List.mem_append_left _ met, same⟩
        · obtain ⟨before, other, later, split, moved, same⟩ := rename
          refine .inr ⟨before, other, later ++ [item], ?_, moved, same⟩
          rw [split]
          simp
      · unfold labelBeside at last
        split at last
        · rename_i taken
          exact .inr ⟨items, item, [], rfl, gone.mp taken, last.symm⟩
        · exact .inl ⟨item, List.mem_append_right _ List.mem_cons_self, last.symm⟩
    · intro used
      rcases used with want | rename
      · obtain ⟨other, met, same⟩ := want
        rcases List.mem_append.mp met with earlier | last
        · exact .inl (ih.mpr (.inl ⟨other, earlier, same⟩))
        · rw [List.mem_singleton.mp last] at same
          -- Its label is in use before it comes, or it gets it.
          by_cases taken : wanted item ∈ relabel wanted renamed items
          · rw [same] at taken
            exact .inl taken
          · rw [labelBeside, if_neg taken]
            exact .inr same.symm
      · obtain ⟨before, other, later, split, moved, same⟩ := rename
        cases later using List.reverseRecOn with
        | nil =>
          obtain ⟨sameItems, sameItem⟩ := List.append_inj' split rfl
          have own : item = other := List.singleton_inj.mp sameItem
          rw [← sameItems, ← own] at moved
          rw [labelBeside, if_pos (gone.mpr moved), own]
          exact .inr same.symm
        | append_singleton later final =>
          have regrouped : items ++ [item] = (before ++ other :: later) ++ [final] := by
            rw [split]
            simp
          have inside := (List.append_inj' regrouped rfl).1
          exact .inl (ih.mpr (.inr ⟨before, other, later, inside, moved, same⟩))

/-- An item's label is in use exactly when it is renamed. -/
theorem wanted_mem_relabel {items : List Item} {item : Item} :
    wanted item ∈ relabel wanted renamed items ↔ Renamed wanted renamed items item :=
  mem_relabel.trans renamed_iff.symm

/-- The labels are distinct exactly when nobody is renamed to a label that an earlier item wants. -/
theorem relabel_nodup_iff {items : List Item} (nodup : items.Nodup)
    (injective : ∀ left ∈ items, ∀ right ∈ items, renamed left = renamed right → left = right) :
    (relabel wanted renamed items).Nodup ↔ ¬Collides wanted renamed items := by
  induction items using List.reverseRecOn with
  | nil =>
    have apart : ¬Collides wanted renamed ([] : List Item) := by
      intro collides
      obtain ⟨before, item, later, split, -⟩ := collides
      exact absurd split (by simp)
    exact iff_of_true List.nodup_nil apart
  | append_singleton items item ih =>
    have parts := List.nodup_append.mp nodup
    have absent : item ∉ items := fun listed => parts.2.2 item listed item List.mem_cons_self rfl
    have before := ih parts.1 fun left inLeft right inRight =>
      injective left (List.mem_append_left _ inLeft) right (List.mem_append_left _ inRight)
    have fresh : labelBeside wanted renamed (relabel wanted renamed items) item ∈
        relabel wanted renamed items ↔
          Renamed wanted renamed items item ∧ ∃ earlier ∈ items, wanted earlier = renamed item := by
      by_cases taken : wanted item ∈ relabel wanted renamed items
      · rw [labelBeside, if_pos taken, mem_relabel, and_iff_right (wanted_mem_relabel.mp taken)]
        constructor
        · intro used
          rcases used with want | rename
          · exact want
          · -- Nobody else has this second label.
            obtain ⟨first, other, later, split, -, same⟩ := rename
            have listed : other ∈ items := by simp [split]
            have own := injective other (List.mem_append_left _ listed) item
              (List.mem_append_right _ List.mem_cons_self) same
            exact absurd (own ▸ listed) absent
        · exact .inl
      · rw [labelBeside, if_neg taken]
        constructor
        · intro used
          exact absurd used taken
        · intro moved
          exact wanted_mem_relabel.mpr moved.1
    rw [relabel_append, List.nodup_append, collides_append, not_or, ← before, ← fresh]
    constructor
    · intro distinct
      exact ⟨distinct.1, fun used => distinct.2.2 _ used _ List.mem_cons_self rfl⟩
    · intro distinct
      refine ⟨distinct.1, List.nodup_singleton _, fun label used other last same => ?_⟩
      rw [List.mem_singleton.mp last] at same
      exact distinct.2 (same ▸ used)

end TacacsWeb.Library
