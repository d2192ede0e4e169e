import Mathlib.Data.List.Basic
import TacacsWeb.Library.Run

/-!
# Computations that may raise

What a successful `Except` computation says about its parts, and the step function of a loop
whose passes may raise.
-/

namespace TacacsWeb.Library

variable {Error Value Result State Label : Type}

/-- A sequence succeeds when its first part does and the second on its value. -/
theorem bind_eq_ok {first : Except Error Value} {second : Value → Except Error Result}
    {result : Result} :
    first.bind second = .ok result ↔ ∃ value, first = .ok value ∧ second value = .ok result := by
  cases first with
  | error raised => simp [Except.bind]
  | ok value => simp [Except.bind]

/-- A computation that fails unless a condition holds succeeds exactly when it does. -/
theorem ite_eq_ok {condition : Prop} [Decidable condition] {error : Error}
    {given value : Value} :
    (if condition then Except.ok given else Except.error error) = .ok value ↔
      condition ∧ given = value := by
  by_cases holds : condition
  · simp [holds]
  · simp [holds]

/-- A mapped computation succeeds when the computation does. -/
theorem map_eq_ok {first : Except Error Value} {second : Value → Result} {result : Result} :
    first.map second = .ok result ↔ ∃ value, first = .ok value ∧ second value = result := by
  cases first with
  | error raised => simp [Except.map]
  | ok value => simp [Except.map]

/-- A computation has a value when it succeeds. -/
theorem toOption_eq_some {computation : Except Error Value} {value : Value} :
    computation.toOption = some value ↔ computation = .ok value := by
  cases computation with
  | error raised => simp [Except.toOption]
  | ok reached => simp [Except.toOption]

/-- The passes of a loop as a step function, undefined where a pass raises. -/
def passes (pass : State → Label → Except Error State) : Step State Label :=
  fun state label => (pass state label).toOption

/-- A pass is a step when it does not raise. -/
theorem passes_eq_some {pass : State → Label → Except Error State} {state next : State}
    {label : Label} : passes pass state label = some next ↔ pass state label = .ok next :=
  toOption_eq_some

/-- A loop ends when its passes run through. -/
theorem foldlM_eq_ok {pass : State → Label → Except Error State} {labels : List Label}
    {state final : State} :
    labels.foldlM pass state = .ok final ↔ (passes pass).run state labels = some final := by
  induction labels generalizing state with
  | nil => simp [pure, Except.pure]
  | cons label labels ih =>
    rw [List.foldlM_cons, Step.run_cons]
    change (pass state label).bind _ = _ ↔ _
    simp only [bind_eq_ok, passes_eq_some, ih]

/-- A loop that collects what its passes add, next to something else that stays in order. -/
theorem foldlM_collects {Item Out Rest Error : Type} {items : List Item}
    (pass : List Out × Rest → Item → Except Error (List Out × Rest)) (out : Item → List Out)
    {holds : Rest → Prop}
    (each : ∀ item ∈ items, ∀ collected rest, holds rest →
      ∃ next, pass (collected, rest) item = .ok (collected ++ out item, next) ∧ holds next)
    (collected : List Out) {rest : Rest} (before : holds rest) :
    ∃ last, items.foldlM pass (collected, rest) = .ok (collected ++ items.flatMap out, last) ∧
      holds last := by
  induction items generalizing collected rest with
  | nil =>
    refine ⟨rest, ?_, before⟩
    rw [List.flatMap_nil, List.append_nil]
    rfl
  | cons item items ih =>
    obtain ⟨next, passed, after⟩ := each item List.mem_cons_self collected rest before
    have others := fun other listed => each other (List.mem_cons_of_mem _ listed)
    obtain ⟨last, looped, final⟩ := ih others (collected ++ out item) after
    refine ⟨last, ?_, final⟩
    rw [List.foldlM_cons, List.flatMap_cons, ← List.append_assoc]
    exact bind_eq_ok.mpr ⟨_, passed, looped⟩

end TacacsWeb.Library
