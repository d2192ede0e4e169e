import Mathlib.Data.List.Nodup

/-!
# Claiming in order

Claimants come one after another. Each has a first and a second choice among some items and takes
the first of the two that nobody before it has taken. No two claimants have one first choice, or
one second choice. Who takes what depends on the order only through the displaced claimants: those
that find their first choice gone.
-/

namespace TacacsWeb.Library

variable {Claimant Item : Type} {first second : Claimant → Option Item}
  {order other : List Claimant} {took tookOther : Claimant → Option Item}

/-- No two claimants have the same choice in the same place, and nobody comes twice. -/
structure Exclusive (first second : Claimant → Option Item) (order : List Claimant) : Prop where
  /-- First choices differ. -/
  first : ∀ left ∈ order, ∀ right ∈ order, ∀ item,
    first left = some item → first right = some item → left = right
  /-- Second choices differ. -/
  second : ∀ left ∈ order, ∀ right ∈ order, ∀ item,
    second left = some item → second right = some item → left = right
  /-- Nobody comes twice. -/
  nodup : order.Nodup

/-- Another order of the claimants is as exclusive. -/
theorem Exclusive.perm (exclusive : Exclusive first second order) (perm : order.Perm other) :
    Exclusive first second other where
  first left leftListed right rightListed :=
    exclusive.first left (perm.mem_iff.mpr leftListed) right (perm.mem_iff.mpr rightListed)
  second left leftListed right rightListed :=
    exclusive.second left (perm.mem_iff.mpr leftListed) right (perm.mem_iff.mpr rightListed)
  nodup := perm.nodup_iff.mp exclusive.nodup

/-- A claimant does not come before itself. -/
theorem Exclusive.not_mem_before {before later : List Claimant} {claimant : Claimant}
    (exclusive : Exclusive first second (before ++ claimant :: later)) : claimant ∉ before := by
  intro earlier
  have nodup := List.nodup_append.mp exclusive.nodup
  exact nodup.2.2 claimant earlier claimant List.mem_cons_self rfl

/-- One claimant comes before another. -/
def Precedes (order : List Claimant) (left right : Claimant) : Prop :=
  ∃ before later, order = before ++ right :: later ∧ left ∈ before

/-- A claimant finds its first choice gone: it has none, or a displaced claimant that comes before
it has that item as its second choice. -/
inductive Displaced (first second : Claimant → Option Item) (order : List Claimant) :
    Claimant → Prop where
  /-- It has no first choice. -/
  | unheld {claimant : Claimant} (none : first claimant = none) :
      Displaced first second order claimant
  /-- Another one takes it as its second. -/
  | taken {earlier claimant : Claimant} {item : Item}
      (displaced : Displaced first second order earlier)
      (fallback : second earlier = some item) (own : first claimant = some item)
      (precedes : Precedes order earlier claimant) : Displaced first second order claimant

/-- Where someone is displaced, someone has no first choice. -/
theorem Displaced.exists_unheld {claimant : Claimant}
    (displaced : Displaced first second order claimant) (listed : claimant ∈ order) :
    ∃ unheld ∈ order, first unheld = none := by
  induction displaced with
  | @unheld claimant none => exact ⟨claimant, listed, none⟩
  | taken displaced fallback own precedes ih =>
    obtain ⟨before, later, rfl, met⟩ := precedes
    exact ih (List.mem_append_left _ met)

variable [DecidableEq Item]

/-- Nobody among these took the item. -/
def isFree (took : Claimant → Option Item) (before : List Claimant) (item : Item) : Bool :=
  before.all fun claimant => took claimant ≠ some item

/-- Every claimant takes its first choice if it is free, else its second if that is. -/
def Takes (first second took : Claimant → Option Item) (order : List Claimant) : Prop :=
  ∀ before claimant later, order = before ++ claimant :: later →
    took claimant = ((first claimant).filter (isFree took before)).or
      ((second claimant).filter (isFree took before))

/-! ## What a claimant takes -/

/-- An item is free when nobody has taken it. -/
theorem isFree_iff {before : List Claimant} {item : Item} :
    isFree took before item = true ↔ ∀ claimant ∈ before, took claimant ≠ some item := by
  simp [isFree]

/-- A claimant takes a choice of its own that is free when it comes. -/
theorem Takes.eq_some {before later : List Claimant} {claimant : Claimant} {item : Item}
    (takes : Takes first second took (before ++ claimant :: later))
    (claimed : took claimant = some item) :
    (first claimant = some item ∨ second claimant = some item) ∧
      ∀ earlier ∈ before, took earlier ≠ some item := by
  rw [takes before claimant later rfl] at claimed
  rcases Option.or_eq_some_iff.mp claimed with own | ⟨-, fallback⟩
  · obtain ⟨choice, free⟩ := Option.filter_eq_some_iff.mp own
    exact ⟨.inl choice, isFree_iff.mp free⟩
  · obtain ⟨choice, free⟩ := Option.filter_eq_some_iff.mp fallback
    exact ⟨.inr choice, isFree_iff.mp free⟩

/-- No two claimants take one item. -/
theorem Takes.injective (takes : Takes first second took order) {left right : Claimant}
    {item : Item} (leftListed : left ∈ order) (rightListed : right ∈ order)
    (leftTook : took left = some item) (rightTook : took right = some item) : left = right := by
  obtain ⟨before, later, rfl⟩ := List.append_of_mem rightListed
  rcases List.mem_append.mp leftListed with earlier | rest
  · exact absurd leftTook ((takes.eq_some rightTook).2 left earlier)
  · rcases List.mem_cons.mp rest with same | after
    · exact same
    · -- The other one comes later, and finds the item taken.
      obtain ⟨between, last, rfl⟩ := List.append_of_mem after
      have split : before ++ right :: (between ++ left :: last) =
          (before ++ right :: between) ++ left :: last := by simp
      rw [split] at takes
      have met : right ∈ before ++ right :: between :=
        List.mem_append_right _ List.mem_cons_self
      exact absurd rightTook ((takes.eq_some leftTook).2 right met)

/-- A claimant whose first choice is free takes it. -/
theorem Takes.first_of_free {before later : List Claimant} {claimant : Claimant} {item : Item}
    (takes : Takes first second took (before ++ claimant :: later))
    (own : first claimant = some item) (free : ∀ earlier ∈ before, took earlier ≠ some item) :
    took claimant = some item := by
  rw [takes before claimant later rfl, own, Option.filter_some_pos (isFree_iff.mpr free),
    Option.some_or]

/-- A claimant that does not take its first choice takes its second if that is free. -/
theorem Takes.second_of_free {before later : List Claimant} {claimant : Claimant} {item : Item}
    (takes : Takes first second took (before ++ claimant :: later))
    (missed : ∀ own, first claimant = some own → took claimant ≠ some own)
    (fallback : second claimant = some item)
    (free : ∀ earlier ∈ before, took earlier ≠ some item) : took claimant = some item := by
  have gone : (first claimant).filter (isFree took before) = none := by
    cases own : first claimant with
    | none => rfl
    | some wanted =>
      refine Option.filter_some_neg (Bool.eq_false_iff.mpr fun free => missed wanted own ?_)
      exact takes.first_of_free own (isFree_iff.mp free)
  rw [takes before claimant later rfl, gone, Option.none_or, fallback,
    Option.filter_some_pos (isFree_iff.mpr free)]

/-! ## Displaced claimants -/

/-- A displaced claimant does not get its first choice. -/
theorem Displaced.missed {claimant : Claimant} (exclusive : Exclusive first second order)
    (takes : Takes first second took order) (listed : claimant ∈ order)
    (displaced : Displaced first second order claimant) :
    ∀ item, first claimant = some item → took claimant ≠ some item := by
  induction displaced with
  | unheld none =>
    intro item own
    rw [none] at own
    cases own
  | @taken earlier claimant item displaced fallback own precedes ih =>
    obtain ⟨before, later, rfl, met⟩ := precedes
    obtain ⟨past, between, rfl⟩ := List.append_of_mem met
    have different : earlier ≠ claimant := fun same =>
      exclusive.not_mem_before (same ▸ met)
    have split : past ++ earlier :: between ++ claimant :: later =
        past ++ earlier :: (between ++ claimant :: later) := by simp
    rw [split] at exclusive takes listed ih
    have there : earlier ∈ past ++ earlier :: (between ++ claimant :: later) :=
      List.mem_append_right _ List.mem_cons_self
    -- Before the earlier one, only the two of them could have taken the item.
    have free : ∀ other ∈ past, took other ≠ some item := by
      intro other old claimed
      have present : other ∈ past ++ earlier :: (between ++ claimant :: later) :=
        List.mem_append_left _ old
      obtain ⟨start, rest, rfl⟩ := List.append_of_mem old
      have again : start ++ other :: rest ++ earlier :: (between ++ claimant :: later) =
          start ++ other :: (rest ++ earlier :: (between ++ claimant :: later)) := by simp
      rcases (Takes.eq_some (again ▸ takes) claimed).1 with choice | choice
      · obtain rfl := exclusive.first other present claimant listed item choice own
        have nodup := List.nodup_append.mp exclusive.nodup
        refine nodup.2.2 other old other ?_ rfl
        exact List.mem_cons_of_mem _ (List.mem_append_right _ List.mem_cons_self)
      · obtain rfl := exclusive.second other present earlier there item choice fallback
        exact exclusive.not_mem_before old
    have claimed : took earlier = some item :=
      takes.second_of_free (ih there) fallback free
    intro wanted choice gained
    obtain rfl := Option.some.inj (own.symm.trans choice)
    exact different (takes.injective there listed claimed gained)

/-- A claimant that does not get its first choice is displaced. -/
theorem displaced_of_missed (exclusive : Exclusive first second order)
    (takes : Takes first second took order) (before later : List Claimant) (claimant : Claimant)
    (split : order = before ++ claimant :: later)
    (missed : ∀ item, first claimant = some item → took claimant ≠ some item) :
    Displaced first second order claimant := by
  cases own : first claimant with
  | none => exact .unheld own
  | some item =>
    have gone : ∃ earlier ∈ before, took earlier = some item := by
      by_contra nobody
      refine missed item own ?_
      rw [split] at takes
      exact takes.first_of_free own fun earlier met claimed => nobody ⟨earlier, met, claimed⟩
    obtain ⟨earlier, met, claimed⟩ := gone
    obtain ⟨past, between, joined⟩ := List.append_of_mem met
    have shorter : past.length < before.length := by simp [joined]
    have again : order = past ++ earlier :: (between ++ claimant :: later) := by
      simp [split, joined]
    have listed : claimant ∈ order := by simp [split]
    have there : earlier ∈ order := by simp [again]
    have different : first earlier ≠ some item := by
      intro choice
      obtain rfl := exclusive.first earlier there claimant listed item choice own
      rw [split] at exclusive
      exact exclusive.not_mem_before met
    have fallback : second earlier = some item := by
      rw [again] at takes
      exact (takes.eq_some claimed).1.resolve_left different
    have displaced : Displaced first second order earlier :=
      displaced_of_missed exclusive takes past (between ++ claimant :: later) earlier again
        fun wanted choice gained => different (by rw [choice, ← gained, claimed])
    exact .taken displaced fallback own ⟨_, later, split, met⟩
termination_by before.length

/-- The displaced claimants are those that do not get their first choice. -/
theorem displaced_iff {claimant : Claimant} (exclusive : Exclusive first second order)
    (takes : Takes first second took order) (listed : claimant ∈ order) :
    Displaced first second order claimant ↔
      ∀ item, first claimant = some item → took claimant ≠ some item := by
  constructor
  · exact fun displaced => displaced.missed exclusive takes listed
  · obtain ⟨before, later, split⟩ := List.append_of_mem listed
    exact displaced_of_missed exclusive takes before later claimant split

/-- A displaced claimant takes its second choice unless that is the first choice of a claimant
that is not displaced. -/
theorem Displaced.took_eq_some {claimant : Claimant} {item : Item}
    (exclusive : Exclusive first second order) (takes : Takes first second took order)
    (listed : claimant ∈ order) (displaced : Displaced first second order claimant) :
    took claimant = some item ↔ second claimant = some item ∧
      ∀ rival ∈ order, first rival = some item → Displaced first second order rival := by
  have missed := displaced.missed exclusive takes listed
  obtain ⟨before, later, split⟩ := List.append_of_mem listed
  constructor
  · intro claimed
    refine ⟨?_, fun rival present own => ?_⟩
    · rw [split] at takes
      exact (takes.eq_some claimed).1.resolve_left fun own => missed item own claimed
    · rw [displaced_iff exclusive takes present]
      intro wanted choice gained
      obtain rfl := Option.some.inj (own.symm.trans choice)
      obtain rfl := takes.injective present listed gained claimed
      exact missed item own claimed
  · rintro ⟨fallback, rivals⟩
    have free : ∀ earlier ∈ before, took earlier ≠ some item := by
      intro earlier met claimed
      have present : earlier ∈ order := by
        rw [split]
        exact List.mem_append_left _ met
      obtain ⟨past, between, joined⟩ := List.append_of_mem present
      have choices : first earlier = some item ∨ second earlier = some item := by
        rw [joined] at takes
        exact (takes.eq_some claimed).1
      rcases choices with own | other
      · exact (rivals earlier present own).missed exclusive takes present item own claimed
      · obtain rfl := exclusive.second earlier present claimant listed item other fallback
        rw [split] at exclusive
        exact exclusive.not_mem_before met
    rw [split] at takes
    exact takes.second_of_free missed fallback free

/-- Two orders give every claimant the same item exactly when they displace the same claimants. -/
theorem Takes.congr_iff (exclusive : Exclusive first second order) (perm : order.Perm other)
    (takes : Takes first second took order) (takesOther : Takes first second tookOther other) :
    (∀ claimant ∈ order, took claimant = tookOther claimant) ↔
      ∀ claimant ∈ order,
        (Displaced first second order claimant ↔ Displaced first second other claimant) := by
  have exclusiveOther := exclusive.perm perm
  constructor
  · intro same claimant listed
    rw [displaced_iff exclusive takes listed,
      displaced_iff exclusiveOther takesOther (perm.mem_iff.mp listed), same claimant listed]
  · intro same claimant listed
    have listedOther := perm.mem_iff.mp listed
    by_cases displaced : Displaced first second order claimant
    · have displacedOther := (same claimant listed).mp displaced
      refine Option.ext fun item => ?_
      rw [displaced.took_eq_some exclusive takes listed,
        displacedOther.took_eq_some exclusiveOther takesOther listedOther]
      refine and_congr_right fun _ => forall_congr' fun rival => ?_
      rw [← perm.mem_iff]
      exact forall_congr' fun present => forall_congr' fun _ => same rival present
    · have kept : ∃ item, first claimant = some item ∧ took claimant = some item := by
        rw [displaced_iff exclusive takes listed] at displaced
        push Not at displaced
        exact displaced
      have keptOther : ∃ item, first claimant = some item ∧ tookOther claimant = some item := by
        rw [same claimant listed, displaced_iff exclusiveOther takesOther listedOther] at displaced
        push Not at displaced
        exact displaced
      obtain ⟨item, own, claimed⟩ := kept
      obtain ⟨again, choice, gained⟩ := keptOther
      rw [claimed, gained, ← own, choice]

end TacacsWeb.Library
