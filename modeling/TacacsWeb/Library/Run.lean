import Mathlib.Data.Option.Basic

/-!
# Runs of partial step functions

A system is a function from a state and a label to the next state, undefined where the
label cannot happen. A run takes a list of labels in order, so an interleaving of several
parties is one list. A guard restricts the labels that may be taken in a state, and the
two rules below turn what one admitted step preserves into what an admitted run preserves.
-/

namespace TacacsWeb.Library

/-- A partial step function: a label is undefined in the states where it cannot happen. -/
abbrev Step (State Label : Type) := State → Label → Option State

namespace Step

variable {State Label : Type}

/-- Take the labels in order, stopping at the first one that cannot happen. -/
def run (step : Step State Label) : State → List Label → Option State
  | state, [] => some state
  | state, label :: labels => (step state label).bind fun next => run step next labels

/-- Every label of the run meets the guard in the state it is taken in. -/
def Admits (step : Step State Label) (guard : State → Label → Prop) :
    State → List Label → Prop
  | _, [] => True
  | state, label :: labels =>
    guard state label ∧ ∀ next, step state label = some next → Admits step guard next labels

variable {step : Step State Label} {guard : State → Label → Prop}

@[simp]
theorem run_nil (state : State) : step.run state [] = some state := rfl

/-- A nonempty run is its first step followed by the remaining run. -/
theorem run_cons {state final : State} {label : Label} {labels : List Label} :
    step.run state (label :: labels) = some final ↔
      ∃ next, step state label = some next ∧ step.run next labels = some final := by
  simp [run, Option.bind_eq_some_iff]

/-- A run of two lists is a run of the second from where the first ends. -/
theorem run_append {state final : State} {labels more : List Label} :
    step.run state (labels ++ more) = some final ↔
      ∃ middle, step.run state labels = some middle ∧ step.run middle more = some final := by
  induction labels generalizing state with
  | nil => simp
  | cons label labels ih =>
    simp only [List.cons_append, run_cons, ih]
    constructor
    · rintro ⟨next, stepped, middle, ran, rest⟩
      exact ⟨middle, ⟨next, stepped, ran⟩, rest⟩
    · rintro ⟨middle, ⟨next, stepped, ran⟩, rest⟩
      exact ⟨next, stepped, middle, ran, rest⟩

/-- A property kept by every admitted step is kept by every admitted run. -/
theorem run_preserves (holds : State → Prop)
    (preserved : ∀ state label next, holds state → guard state label →
      step state label = some next → holds next)
    {labels : List Label} {state final : State} (start : holds state)
    (admitted : step.Admits guard state labels) (ran : step.run state labels = some final) :
    holds final := by
  induction labels generalizing state with
  | nil =>
    obtain rfl := Option.some.inj ran
    exact start
  | cons label labels ih =>
    obtain ⟨next, stepped, rest⟩ := run_cons.mp ran
    exact ih (preserved state label next start admitted.1 stepped) (admitted.2 next stepped) rest

/-- A guard that every step meets admits every run. -/
theorem admits_of_forall (always : ∀ state label, guard state label) (state : State)
    (labels : List Label) : step.Admits guard state labels := by
  induction labels generalizing state with
  | nil => trivial
  | cons label labels ih => exact ⟨always state label, fun next _ => ih next⟩

/-- What every label of a run meets may be added to its guard. -/
theorem Admits.and {fits : Label → Prop} {state : State} {labels : List Label}
    (admitted : step.Admits guard state labels) (fitting : ∀ label ∈ labels, fits label) :
    step.Admits (fun state label => guard state label ∧ fits label) state labels := by
  induction labels generalizing state with
  | nil => trivial
  | cons label labels ih =>
    exact ⟨⟨admitted.1, fitting label List.mem_cons_self⟩, fun next stepped =>
      ih (admitted.2 next stepped) fun later listed =>
        fitting later (List.mem_cons_of_mem _ listed)⟩

/-- A run that meets two guards meets both at once. -/
theorem Admits.both {other : State → Label → Prop} {state : State} {labels : List Label}
    (admitted : step.Admits guard state labels) (admittedToo : step.Admits other state labels) :
    step.Admits (fun state label => guard state label ∧ other state label) state labels := by
  induction labels generalizing state with
  | nil => trivial
  | cons label labels ih =>
    exact ⟨⟨admitted.1, admittedToo.1⟩, fun next stepped =>
      ih (admitted.2 next stepped) (admittedToo.2 next stepped)⟩

/-- The two parts of an admitted run are admitted. -/
theorem Admits.append {state middle : State} {labels more : List Label}
    (admitted : step.Admits guard state (labels ++ more))
    (ran : step.run state labels = some middle) :
    step.Admits guard state labels ∧ step.Admits guard middle more := by
  induction labels generalizing state with
  | nil =>
    obtain rfl := Option.some.inj ran
    exact ⟨trivial, admitted⟩
  | cons label labels ih =>
    obtain ⟨next, stepped, rest⟩ := run_cons.mp ran
    have later := ih (admitted.2 next stepped) rest
    refine ⟨⟨admitted.1, fun other taken => ?_⟩, later.2⟩
    obtain rfl := Option.some.inj (stepped.symm.trans taken)
    exact later.1

/-- A property kept by every step is kept by every run. -/
theorem run_invariant (holds : State → Prop)
    (preserved : ∀ state label next, holds state → step state label = some next → holds next)
    {labels : List Label} {state final : State} (start : holds state)
    (ran : step.run state labels = some final) : holds final :=
  have always : step.Admits (fun _ _ => True) state labels :=
    admits_of_forall (fun _ _ => trivial) state labels
  run_preserves holds
    (fun state label next before _ stepped => preserved state label next before stepped) start
    always ran

/-- Where the labels before it tell whether a step can be taken, they tell whether a run can. -/
theorem run_isSome_iff_prefixes {whole : List Label} (holds : List Label → State → Prop)
    (passes : List Label → Label → Prop)
    (possible : ∀ done label later state, whole = done ++ label :: later → holds done state →
      ((∃ next, step state label = some next) ↔ passes done label))
    (preserved : ∀ done label later state next, whole = done ++ label :: later →
      holds done state → step state label = some next → holds (done ++ [label]) next)
    {state : State} (start : holds [] state) :
    (∃ final, step.run state whole = some final) ↔
      ∀ done label later, whole = done ++ label :: later → passes done label := by
  -- The run from where some labels have been taken, with what is left of the list.
  have onwards : ∀ labels done state, whole = done ++ labels → holds done state →
      ((∃ final, step.run state labels = some final) ↔
        ∀ between label later, labels = between ++ label :: later →
          passes (done ++ between) label) := by
    intro labels
    induction labels with
    | nil =>
      intro done state _ _
      exact iff_of_true ⟨state, rfl⟩ fun between label later split => by simp at split
    | cons first labels ih =>
      intro done state joined before
      have current := possible done first labels state joined before
      have rest : whole = (done ++ [first]) ++ labels := by
        rw [joined, List.append_assoc, List.singleton_append]
      constructor
      · intro ran between label later split
        obtain ⟨final, ran⟩ := ran
        obtain ⟨next, stepped, remaining⟩ := run_cons.mp ran
        have after := preserved done first labels state next joined before stepped
        cases between with
        | nil =>
          obtain ⟨same, -⟩ := List.cons_eq_cons.mp split
          rw [List.append_nil, ← same]
          exact current.mp ⟨next, stepped⟩
        | cons other between =>
          rw [List.cons_append, List.cons_eq_cons] at split
          have passed := (ih (done ++ [first]) next rest after).mp ⟨final, remaining⟩
            between label later split.2
          rwa [List.append_assoc, List.singleton_append, split.1] at passed
      · intro all
        have passed := all [] first labels rfl
        rw [List.append_nil] at passed
        obtain ⟨next, stepped⟩ := current.mpr passed
        have after := preserved done first labels state next joined before stepped
        obtain ⟨final, remaining⟩ := (ih (done ++ [first]) next rest after).mpr <| by
          intro between label later split
          have passed := all (first :: between) label later (by rw [split, List.cons_append])
          rwa [List.append_assoc, List.singleton_append]
        exact ⟨final, run_cons.mpr ⟨next, stepped, remaining⟩⟩
  exact onwards whole [] state rfl start

/-- Where every step is matched by a run of another system, so is every run. -/
theorem run_simulates {Fine FineLabel : Type} {fine : Step Fine FineLabel} (embed : State → Fine)
    (matched : ∀ state label next, step state label = some next →
      ∃ labels, fine.run (embed state) labels = some (embed next))
    {labels : List Label} {state final : State} (ran : step.run state labels = some final) :
    ∃ fineLabels, fine.run (embed state) fineLabels = some (embed final) := by
  induction labels generalizing state with
  | nil =>
    obtain rfl := Option.some.inj ran
    exact ⟨[], rfl⟩
  | cons label labels ih =>
    obtain ⟨next, stepped, rest⟩ := run_cons.mp ran
    obtain ⟨first, ranFirst⟩ := matched state label next stepped
    obtain ⟨later, ranLater⟩ := ih rest
    exact ⟨first ++ later, run_append.mpr ⟨embed next, ranFirst, ranLater⟩⟩

/-- A run whose first step is taken is admitted when that step and the remaining run are. -/
theorem Admits.cons {state next : State} {label : Label} {labels : List Label}
    (admitted : guard state label) (stepped : step state label = some next)
    (rest : step.Admits guard next labels) : step.Admits guard state (label :: labels) := by
  refine ⟨admitted, fun other taken => ?_⟩
  obtain rfl := Option.some.inj (stepped.symm.trans taken)
  exact rest

/-- What holds of a thing at the end of a run and did not hold at its start has an origin: a step
that brought it about. -/
theorem run_origin {Thing : Type} (holds : State → Thing → Prop)
    (origin : State → Label → Thing → Prop)
    (brought : ∀ state label next thing, step state label = some next → holds next thing →
      holds state thing ∨ origin state label thing)
    {labels : List Label} {start final : State} {thing : Thing}
    (ran : step.run start labels = some final) (held : holds final thing) :
    holds start thing ∨ ∃ earlier label later before,
      labels = earlier ++ label :: later ∧ step.run start earlier = some before ∧
        origin before label thing := by
  induction labels generalizing start with
  | nil =>
    obtain rfl := Option.some.inj ran
    exact .inl held
  | cons first labels ih =>
    obtain ⟨next, stepped, rest⟩ := run_cons.mp ran
    rcases ih rest with here | ⟨earlier, label, later, before, split, reached, made⟩
    · rcases brought start first next thing stepped here with atStart | now
      · exact .inl atStart
      · exact .inr ⟨[], first, labels, start, rfl, rfl, now⟩
    · refine .inr ⟨first :: earlier, label, later, before, ?_, ?_, made⟩
      · rw [split]
        rfl
      · exact run_cons.mpr ⟨next, stepped, reached⟩

/-- A property of the state alone that holds at the end of a run held at its start, or was brought
about by a step. -/
theorem run_brought (holds : State → Prop) (origin : State → Label → Prop)
    (brought : ∀ state label next, step state label = some next → holds next →
      holds state ∨ origin state label)
    {labels : List Label} {start final : State} (ran : step.run start labels = some final)
    (held : holds final) :
    holds start ∨ ∃ earlier label later before,
      labels = earlier ++ label :: later ∧ step.run start earlier = some before ∧
        origin before label :=
  @run_origin State Label step Unit (fun state _ => holds state)
    (fun state label _ => origin state label)
    (fun state label next _ => brought state label next) labels start final () ran held

end Step

end TacacsWeb.Library
