import Mathlib.Logic.Function.Basic
import TacacsWeb.Library.Run

/-!
# Two transactions that load, compute and commit

A transaction loads what it needs, works out a change and commits the change on the state as
it is by then. Two of them may interleave in any way. Whatever the interleaving, the outcome is
that of one after the other, or that of both having loaded the starting state before either
committed.
-/

namespace TacacsWeb.Library

/-- How a request reads the state and how its change is committed. Either may fail. -/
structure ReadModifyWrite (State Request Change : Type) where
  /-- Load, and work out the change. -/
  load : State → Request → Option Change
  /-- Commit a change. -/
  commit : State → Change → Option State

/-- One of two parties. -/
inductive Party where
  /-- The first. -/
  | first
  /-- The second. -/
  | second
deriving DecidableEq

/-- The party that is not the one given. -/
def Party.other : Party → Party
  | .first => .second
  | .second => .first

@[simp]
theorem Party.other_other (party : Party) : party.other.other = party := by
  cases party <;> rfl

@[simp]
theorem Party.other_ne (party : Party) : party.other ≠ party := by
  cases party <;> decide

/-- A party is one given or the other one. -/
theorem Party.eq_or_eq_other (party given : Party) : party = given ∨ party = given.other := by
  cases party <;> cases given <;> decide

namespace ReadModifyWrite

variable {State Request Change : Type}

/-- How far a transaction has come. -/
inductive Phase (Request Change : Type) where
  /-- It has not loaded anything. -/
  | waiting (request : Request)
  /-- It has worked out its change. -/
  | loaded (change : Change)
  /-- It has committed. -/
  | committed
deriving DecidableEq

/-- The state and the two transactions on it. -/
structure Pair (State Request Change : Type) where
  /-- The state. -/
  state : State
  /-- How far each transaction has come. -/
  phase : Party → Phase Request Change

/-- Both transactions have committed. -/
def Pair.Finished (pair : Pair State Request Change) : Prop :=
  ∀ party, pair.phase party = .committed

/-- Two requests before their transactions. -/
def Pair.start (state : State) (requests : Party → Request) : Pair State Request Change where
  state := state
  phase := fun party => .waiting (requests party)

/-- One party has come further, and the state is a new one. -/
def Pair.move (pair : Pair State Request Change) (party : Party) (state : State)
    (phase : Phase Request Change) : Pair State Request Change where
  state := state
  phase := Function.update pair.phase party phase

section Move

variable (pair : Pair State Request Change) (party : Party) (state : State)
  (phase : Phase Request Change)

@[simp]
theorem Pair.move_state : (pair.move party state phase).state = state := rfl

@[simp]
theorem Pair.move_phase_self : (pair.move party state phase).phase party = phase :=
  Function.update_self ..

@[simp]
theorem Pair.move_phase_other :
    (pair.move party state phase).phase party.other = pair.phase party.other :=
  Function.update_of_ne party.other_ne ..

@[simp]
theorem Pair.move_other_phase :
    (pair.move party.other state phase).phase party = pair.phase party :=
  Function.update_of_ne party.other_ne.symm ..

end Move

/-- The transactions of a schedule overlap: the second label is of another party than the
first, so that both load before either commits. -/
def overlaps : List Party → Bool
  | label :: next :: _ => label ≠ next
  | _ => false

variable (system : ReadModifyWrite State Request Change)

/-- One transaction with nothing in between. -/
def alone (state : State) (request : Request) : Option State :=
  (system.load state request).bind (system.commit state)

/-- One transaction after the other. -/
def serial (state : State) (earlier later : Request) : Option State :=
  (system.alone state earlier).bind fun next => system.alone next later

/-- Both load the state, and then one commits after the other. -/
def overlapped (state : State) (earlier later : Request) : Option State :=
  (system.load state earlier).bind fun change =>
    (system.load state later).bind fun laterChange =>
      (system.commit state change).bind fun next => system.commit next laterChange

/-- One party takes its next step. -/
def step : Step (Pair State Request Change) Party := fun pair party =>
  match pair.phase party with
  | .waiting request =>
    (system.load pair.state request).map fun change => pair.move party pair.state (.loaded change)
  | .loaded change =>
    (system.commit pair.state change).map fun next => pair.move party next .committed
  | .committed => none

/-! ## What remains of a schedule -/

variable {system} {pair final : Pair State Request Change}

/-- A waiting party takes the step of loading. -/
theorem step_waiting {party : Party} {request : Request} {next : Pair State Request Change}
    (waits : pair.phase party = .waiting request) (stepped : system.step pair party = some next) :
    ∃ change, system.load pair.state request = some change ∧
      next = pair.move party pair.state (.loaded change) := by
  simp only [step, waits, Option.map_eq_some_iff] at stepped
  obtain ⟨change, loaded, rfl⟩ := stepped
  exact ⟨change, loaded, rfl⟩

/-- A party that has loaded takes the step of committing. -/
theorem step_loaded {party : Party} {change : Change} {next : Pair State Request Change}
    (ready : pair.phase party = .loaded change) (stepped : system.step pair party = some next) :
    ∃ state, system.commit pair.state change = some state ∧
      next = pair.move party state .committed := by
  simp only [step, ready, Option.map_eq_some_iff] at stepped
  obtain ⟨state, committed, rfl⟩ := stepped
  exact ⟨state, committed, rfl⟩

/-- A party that has committed takes no step. -/
theorem step_committed {party : Party} (finished : pair.phase party = .committed) :
    system.step pair party = none := by
  simp only [step, finished]

/-- A run that ends with both committed is not over while a party has not. -/
theorem run_of_unfinished {labels : List Party} (party : Party)
    (unfinished : pair.phase party ≠ .committed) (done : final.Finished)
    (ran : system.step.run pair labels = some final) :
    ∃ label rest next, labels = label :: rest ∧ system.step pair label = some next ∧
      system.step.run next rest = some final := by
  cases labels with
  | nil =>
    obtain rfl := Option.some.inj ran
    exact absurd (done party) unfinished
  | cons label rest =>
    obtain ⟨next, stepped, remaining⟩ := Step.run_cons.mp ran
    exact ⟨label, rest, next, rfl, stepped, remaining⟩

/-- Nothing remains when both have committed. -/
theorem run_of_finished {labels : List Party} (party : Party)
    (mine : pair.phase party = .committed) (theirs : pair.phase party.other = .committed)
    (ran : system.step.run pair labels = some final) : labels = [] ∧ final = pair := by
  cases labels with
  | nil => exact ⟨rfl, (Option.some.inj ran).symm⟩
  | cons label rest =>
    obtain ⟨next, stepped, -⟩ := Step.run_cons.mp ran
    rcases label.eq_or_eq_other party with rfl | rfl
    · rw [step_committed mine] at stepped
      cases stepped
    · rw [step_committed theirs] at stepped
      cases stepped

/-- What remains when one party has loaded and the other has committed. -/
theorem run_of_loaded {labels : List Party} (party : Party) {change : Change}
    (mine : pair.phase party = .loaded change) (theirs : pair.phase party.other = .committed)
    (done : final.Finished) (ran : system.step.run pair labels = some final) :
    labels = [party] ∧ system.commit pair.state change = some final.state := by
  have unfinished : pair.phase party ≠ .committed := by rw [mine]; nofun
  obtain ⟨label, rest, next, rfl, stepped, remaining⟩ :=
    run_of_unfinished party unfinished done ran
  rcases label.eq_or_eq_other party with rfl | rfl
  · obtain ⟨state, committed, rfl⟩ := step_loaded mine stepped
    obtain ⟨rfl, rfl⟩ := run_of_finished label (by simp) (by simpa using theirs) remaining
    exact ⟨rfl, committed⟩
  · rw [step_committed theirs] at stepped
    cases stepped

/-- What remains when one party waits and the other has committed. -/
theorem run_of_waiting {labels : List Party} (party : Party) {request : Request}
    (mine : pair.phase party = .waiting request) (theirs : pair.phase party.other = .committed)
    (done : final.Finished) (ran : system.step.run pair labels = some final) :
    labels = [party, party] ∧ system.alone pair.state request = some final.state := by
  have unfinished : pair.phase party ≠ .committed := by rw [mine]; nofun
  obtain ⟨label, rest, next, rfl, stepped, remaining⟩ :=
    run_of_unfinished party unfinished done ran
  rcases label.eq_or_eq_other party with rfl | rfl
  · obtain ⟨change, loaded, rfl⟩ := step_waiting mine stepped
    obtain ⟨rfl, committed⟩ :=
      run_of_loaded label (Pair.move_phase_self ..) (by simpa using theirs) done remaining
    refine ⟨rfl, ?_⟩
    rw [alone, loaded]
    exact committed
  · rw [step_committed theirs] at stepped
    cases stepped

/-- What remains when both have loaded: one of them commits last. -/
theorem run_of_both_loaded {labels : List Party} (changes : Party → Change)
    (ready : ∀ party, pair.phase party = .loaded (changes party)) (done : final.Finished)
    (ran : system.step.run pair labels = some final) :
    ∃ last : Party, labels = [last.other, last] ∧
      (system.commit pair.state (changes last.other)).bind
        (fun next => system.commit next (changes last)) = some final.state := by
  have unfinished : pair.phase .first ≠ .committed := by rw [ready]; nofun
  obtain ⟨label, rest, next, rfl, stepped, remaining⟩ :=
    run_of_unfinished .first unfinished done ran
  obtain ⟨state, committed, rfl⟩ := step_loaded (ready label) stepped
  obtain ⟨rfl, later⟩ :=
    run_of_loaded label.other (by simpa using ready label.other) (by simp) done remaining
  refine ⟨label.other, by rw [Party.other_other], ?_⟩
  rw [Party.other_other, committed]
  exact later

/-- Of two transactions in any interleaving, the one that commits last came after the other, or both
loaded the starting state and the other committed first. -/
theorem run_outcome {state : State} {requests : Party → Request} {schedule : List Party}
    (ran : system.step.run (.start state requests) schedule = some final)
    (done : final.Finished) :
    ∃ last : Party, schedule.getLast? = some last ∧
      (if overlaps schedule then system.overlapped state (requests last.other) (requests last)
        else system.serial state (requests last.other) (requests last)) = some final.state := by
  have unfinished :
      (Pair.start state requests : Pair State Request Change).phase .first ≠ .committed := by
    nofun
  obtain ⟨label, rest, next, rfl, stepped, remaining⟩ :=
    run_of_unfinished .first unfinished done ran
  obtain ⟨change, loaded, rfl⟩ := step_waiting rfl stepped
  obtain ⟨following, rest, next, rfl, stepped, remaining⟩ :=
    run_of_unfinished label (by simp) done remaining
  rcases following.eq_or_eq_other label with rfl | rfl
  · -- The first party commits before the other has loaded.
    obtain ⟨middle, committed, rfl⟩ := step_loaded (Pair.move_phase_self ..) stepped
    obtain ⟨rfl, later⟩ := run_of_waiting following.other (by simp; rfl) (by simp) done remaining
    refine ⟨following.other, rfl, ?_⟩
    have apart : overlaps [following, following, following.other, following.other] = false := by
      simp [overlaps]
    simp only [Pair.start, Pair.move_state] at loaded committed later
    rw [apart, if_neg Bool.false_ne_true, serial, alone, Party.other_other]
    simpa [loaded, committed] using later
  · -- Both have loaded the starting state.
    obtain ⟨otherChange, otherLoaded, rfl⟩ := step_waiting (by simp; rfl) stepped
    have together : overlaps (label :: label.other :: rest) = true := by
      simp [overlaps, label.other_ne.symm]
    obtain ⟨last, rfl, later⟩ := run_of_both_loaded
      (fun party => if party = label then change else otherChange)
      (fun party => by
        rcases party.eq_or_eq_other label with rfl | rfl
        · simp
        · simp [label.other_ne]) done remaining
    refine ⟨last, rfl, ?_⟩
    simp only [Pair.start, Pair.move_state] at loaded otherLoaded later
    rw [together, if_pos rfl, overlapped]
    rcases last.eq_or_eq_other label with rfl | rfl
    · simpa [loaded, otherLoaded] using later
    · simpa [loaded, otherLoaded, label.other_ne] using later

end ReadModifyWrite

end TacacsWeb.Library
