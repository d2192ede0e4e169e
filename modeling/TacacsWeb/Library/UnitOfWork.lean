import Mathlib.Data.List.Basic

/-!
# Units of work

A program that talks to a database through a session: it looks at the tables, stages changes,
has them written inside a transaction and commits. What is not committed is lost with the session.
How each database operation ends is a plan beside the program, so that one run function gives the
undisturbed run and every run that is cut short, and one rule carries a condition through all of
them.
-/

namespace TacacsWeb.Library.UnitOfWork

/-- Why the database refuses a change. -/
inductive Fault where
  /-- A constraint is broken; a program may handle this one. -/
  | integrity
  /-- Any other error. -/
  | other
deriving DecidableEq

/-- How a database operation ends. -/
inductive Outcome where
  /-- It is carried out, as far as the database accepts it. -/
  | proceeds
  /-- It raises a broken constraint. -/
  | refused
  /-- It raises any other error and is not carried out. -/
  | fails
  /-- It is carried out, but raises because the answer is lost. -/
  | unanswered
  /-- The process stops before it. -/
  | stops
deriving DecidableEq

/-- How a program ends. -/
inductive Ending (Answer : Type) where
  /-- With an answer. -/
  | answered (answer : Answer)
  /-- With an error that it does not handle. -/
  | raised
  /-- Before its end. -/
  | stopped
deriving DecidableEq

/-- A program over a session. -/
inductive Script (Tables Sequences Change Answer : Type) where
  /-- End with an answer. -/
  | respond (answer : Answer)
  /-- End with an error. -/
  | raise
  /-- Look at the tables as the transaction sees them. -/
  | query (next : Tables → Sequences → Script Tables Sequences Change Answer)
  /-- Leave a change to the next write or commit. -/
  | stage (change : Change) (next : Script Tables Sequences Change Answer)
  /-- Write everything staged and then this change, and learn the id of its row. A broken
  constraint is handled. -/
  | write (change : Change) (refused : Script Tables Sequences Change Answer)
      (next : Nat → Script Tables Sequences Change Answer)
  /-- Give up the transaction. -/
  | rollback (next : Script Tables Sequences Change Answer)
  /-- Write everything staged and commit. A broken constraint is handled. -/
  | commit (refused next : Script Tables Sequences Change Answer)

/-- What a database does with a change: the tables after it and the id of its row, or a fault, and
the sequences, which move on in either case. -/
abbrev Engine (Tables Sequences Change : Type) :=
  Change → Tables → Sequences → Except Fault (Tables × Nat) × Sequences

/-- Tables with the changes that have led to them. -/
structure Version (Tables Change : Type) where
  /-- The tables. -/
  tables : Tables
  /-- The changes, in order. -/
  journal : List Change

/-- A session. -/
structure Session (Tables Sequences Change : Type) where
  /-- What is committed. -/
  durable : Version Tables Change
  /-- What the open transaction sees. -/
  working : Version Tables Change
  /-- The sequences, which no rollback sets back. -/
  sequences : Sequences
  /-- Changes not yet written. -/
  staged : List Change

variable {Tables Sequences Change Answer : Type}

namespace Session

/-- A session that has done nothing yet. -/
def start (tables : Tables) (sequences : Sequences) : Session Tables Sequences Change :=
  ⟨⟨tables, []⟩, ⟨tables, []⟩, sequences, []⟩

/-- A change more to write. -/
def stage (session : Session Tables Sequences Change) (change : Change) :
    Session Tables Sequences Change :=
  { session with staged := session.staged ++ [change] }

/-- Nothing is left but what is committed and the sequences. -/
def rollback (session : Session Tables Sequences Change) : Session Tables Sequences Change :=
  { session with working := session.durable, staged := [] }

/-- Rolled back with the sequences as given. -/
def reset (session : Session Tables Sequences Change) (sequences : Sequences) :
    Session Tables Sequences Change :=
  { session.rollback with sequences := sequences }

/-- Write one change. A fault rolls the session back. -/
def apply (engine : Engine Tables Sequences Change) (change : Change)
    (session : Session Tables Sequences Change) :
    Except Fault Nat × Session Tables Sequences Change :=
  match engine change session.working.tables session.sequences with
  | (.ok (tables, id), sequences) =>
    (.ok id, { session with
      working := ⟨tables, session.working.journal ++ [change]⟩
      sequences := sequences })
  | (.error fault, sequences) => (.error fault, session.reset sequences)

/-- Write changes in order, up to the first fault. -/
def applyAll (engine : Engine Tables Sequences Change) :
    List Change → Session Tables Sequences Change →
      Except Fault Unit × Session Tables Sequences Change
  | [], session => (.ok (), session)
  | change :: changes, session =>
    match session.apply engine change with
    | (.ok _, written) => applyAll engine changes written
    | (.error fault, rolledBack) => (.error fault, rolledBack)

/-- Write what is staged. -/
def flush (engine : Engine Tables Sequences Change) (session : Session Tables Sequences Change) :
    Except Fault Unit × Session Tables Sequences Change :=
  applyAll engine session.staged { session with staged := [] }

/-- Write what is staged and one change more. -/
def write (engine : Engine Tables Sequences Change) (change : Change)
    (session : Session Tables Sequences Change) :
    Except Fault Nat × Session Tables Sequences Change :=
  match session.flush engine with
  | (.ok (), flushed) => flushed.apply engine change
  | (.error fault, rolledBack) => (.error fault, rolledBack)

/-- Write what is staged and make it durable. -/
def commit (engine : Engine Tables Sequences Change) (session : Session Tables Sequences Change) :
    Except Fault Unit × Session Tables Sequences Change :=
  match session.flush engine with
  | (.ok (), flushed) => (.ok (), { flushed with durable := flushed.working })
  | (.error fault, rolledBack) => (.error fault, rolledBack)

end Session

/-! ## Running a script -/

/-- The operation with a number is carried out: those before it proceed, and so does it, answered or
not. -/
def CarriedOut : Nat → List Outcome → Prop
  | 0, plan => plan.headD .proceeds = .proceeds ∨ plan.headD .proceeds = .unanswered
  | number + 1, plan => plan.headD .proceeds = .proceeds ∧ CarriedOut number plan.tail

namespace Script

/-- The run of a script under a plan: each entry says how the next database operation ends, and
operations beyond the plan proceed. -/
def run (engine : Engine Tables Sequences Change) :
    Script Tables Sequences Change Answer → Session Tables Sequences Change → List Outcome →
      Session Tables Sequences Change × Ending Answer
  | .respond answer, session, _ => (session, .answered answer)
  | .raise, session, _ => (session, .raised)
  | .query next, session, plan =>
    match plan.headD .proceeds with
    | .proceeds => (next session.working.tables session.sequences).run engine session plan.tail
    | .stops => (session, .stopped)
    | .refused | .fails | .unanswered => (session, .raised)
  | .stage change next, session, plan => next.run engine (session.stage change) plan
  | .write change refused next, session, plan =>
    match plan.headD .proceeds with
    | .proceeds =>
      match session.write engine change with
      | (.ok id, written) => (next id).run engine written plan.tail
      | (.error .integrity, rolledBack) => refused.run engine rolledBack plan.tail
      | (.error .other, rolledBack) => (rolledBack, .raised)
    | .refused => refused.run engine session.rollback plan.tail
    | .stops => (session, .stopped)
    | .fails | .unanswered => (session, .raised)
  | .rollback next, session, plan => next.run engine session.rollback plan
  | .commit refused next, session, plan =>
    match plan.headD .proceeds with
    | .proceeds =>
      match session.commit engine with
      | (.ok (), committed) => next.run engine committed plan.tail
      | (.error .integrity, rolledBack) => refused.run engine rolledBack plan.tail
      | (.error .other, rolledBack) => (rolledBack, .raised)
    | .refused => refused.run engine session.rollback plan.tail
    | .stops => (session, .stopped)
    | .fails => (session, .raised)
    | .unanswered => ((session.commit engine).2, .raised)

/-- What must hold for every run from a session to end in a state that meets a condition: the
condition is asked wherever a run may be cut. -/
def Ensures (engine : Engine Tables Sequences Change)
    (post : Version Tables Change → Ending Answer → Prop) :
    Script Tables Sequences Change Answer → Session Tables Sequences Change → Prop
  | .respond answer, session => post session.durable (.answered answer)
  | .raise, session => post session.durable .raised
  | .query next, session =>
    post session.durable .raised ∧ post session.durable .stopped ∧
      (next session.working.tables session.sequences).Ensures engine post session
  | .stage change next, session => next.Ensures engine post (session.stage change)
  | .write change refused next, session =>
    post session.durable .raised ∧ post session.durable .stopped ∧
      (∀ sequences, refused.Ensures engine post (session.reset sequences)) ∧
      ∀ id written, session.write engine change = (.ok id, written) →
        (next id).Ensures engine post written
  | .rollback next, session => next.Ensures engine post session.rollback
  | .commit refused next, session =>
    post session.durable .raised ∧ post session.durable .stopped ∧
      (∀ sequences, refused.Ensures engine post (session.reset sequences)) ∧
      ∀ committed, session.commit engine = (.ok (), committed) →
        post committed.durable .raised ∧ next.Ensures engine post committed

end Script

/-! ## What the operations of a session do -/

namespace Session

variable {engine : Engine Tables Sequences Change} {session after : Session Tables Sequences Change}
  {change : Change}

/-- What a change that is written does to the session. -/
theorem apply_ok {id : Nat} (written : session.apply engine change = (.ok id, after)) :
    ∃ tables sequences,
      engine change session.working.tables session.sequences = (.ok (tables, id), sequences) ∧
      after = { session with
        working := ⟨tables, session.working.journal ++ [change]⟩
        sequences := sequences } := by
  unfold apply at written
  cases answer : engine change session.working.tables session.sequences with
  | mk result sequences =>
    rw [answer] at written
    cases result with
    | error fault => simp at written
    | ok outcome =>
      simp only [Prod.mk.injEq, Except.ok.injEq] at written
      refine ⟨outcome.1, sequences, ?_, written.2.symm⟩
      rw [← written.1]

/-- A fault leaves nothing but the sequences. -/
theorem apply_error {fault : Fault}
    (refused : session.apply engine change = (.error fault, after)) :
    ∃ sequences, after = session.reset sequences := by
  unfold apply at refused
  cases answer : engine change session.working.tables session.sequences with
  | mk result sequences =>
    rw [answer] at refused
    cases result with
    | error found =>
      simp only [Prod.mk.injEq, Except.error.injEq] at refused
      exact ⟨sequences, refused.2.symm⟩
    | ok outcome => simp at refused

/-- Writing changes leaves what is committed and what is staged, and records each of them. -/
theorem applyAll_ok {changes : List Change}
    (written : applyAll engine changes session = (.ok (), after)) :
    after.durable = session.durable ∧ after.staged = session.staged ∧
      after.working.journal = session.working.journal ++ changes := by
  induction changes generalizing session with
  | nil =>
    simp only [applyAll, Prod.mk.injEq, true_and] at written
    subst written
    simp
  | cons change changes ih =>
    unfold applyAll at written
    cases step : session.apply engine change with
    | mk result next =>
      rw [step] at written
      cases result with
      | error fault => simp at written
      | ok id =>
        have rest := ih written
        obtain ⟨tables, sequences, _, same⟩ := apply_ok step
        subst same
        refine ⟨rest.1, rest.2.1, ?_⟩
        rw [rest.2.2]
        simp

/-- Changes are written one after the other. -/
theorem applyAll_cons_ok {changes : List Change}
    (written : applyAll engine (change :: changes) session = (.ok (), after)) :
    ∃ id next, session.apply engine change = (.ok id, next) ∧
      applyAll engine changes next = (.ok (), after) := by
  unfold applyAll at written
  cases step : session.apply engine change with
  | mk result next =>
    rw [step] at written
    cases result with
    | error fault => simp at written
    | ok id => exact ⟨id, next, rfl, written⟩

/-- A fault on the way leaves nothing but the sequences. -/
theorem applyAll_error {changes : List Change} {fault : Fault}
    (refused : applyAll engine changes session = (.error fault, after)) :
    ∃ sequences, after = session.reset sequences := by
  induction changes generalizing session with
  | nil => simp [applyAll] at refused
  | cons change changes ih =>
    unfold applyAll at refused
    cases step : session.apply engine change with
    | mk result next =>
      rw [step] at refused
      cases result with
      | error found =>
        simp only [Prod.mk.injEq] at refused
        rw [← refused.2]
        exact apply_error step
      | ok id =>
        obtain ⟨sequences, same⟩ := ih refused
        obtain ⟨tables, moved, _, written⟩ := apply_ok step
        refine ⟨sequences, ?_⟩
        rw [same, written]
        rfl

/-- A refused flush leaves nothing but the sequences. -/
theorem flush_error {fault : Fault} (refused : session.flush engine = (.error fault, after)) :
    ∃ sequences, after = session.reset sequences := by
  unfold flush at refused
  obtain ⟨sequences, same⟩ := applyAll_error refused
  exact ⟨sequences, same⟩

/-- A refused write leaves nothing but the sequences. -/
theorem write_error {fault : Fault}
    (refused : session.write engine change = (.error fault, after)) :
    ∃ sequences, after = session.reset sequences := by
  unfold write at refused
  cases step : session.flush engine with
  | mk result next =>
    rw [step] at refused
    cases result with
    | error found =>
      simp only [Prod.mk.injEq] at refused
      rw [← refused.2]
      exact flush_error step
    | ok done =>
      obtain ⟨sequences, same⟩ := apply_error refused
      have flushed := applyAll_ok step
      refine ⟨sequences, ?_⟩
      rw [same]
      simp only [reset, rollback, flushed.1]

/-- A refused commit leaves nothing but the sequences. -/
theorem commit_error {fault : Fault} (refused : session.commit engine = (.error fault, after)) :
    ∃ sequences, after = session.reset sequences := by
  unfold commit at refused
  cases step : session.flush engine with
  | mk result next =>
    rw [step] at refused
    cases result with
    | error found =>
      simp only [Prod.mk.injEq] at refused
      rw [← refused.2]
      exact flush_error step
    | ok done => simp at refused

/-- A write on top of nothing staged is the change alone. -/
theorem write_of_unstaged (unstaged : session.staged = []) :
    session.write engine change = session.apply engine change := by
  have same : { session with staged := [] } = session := by rw [← unstaged]
  unfold write flush
  rw [unstaged, applyAll, same]

/-- A commit makes durable what a flush leaves. -/
theorem commit_ok (committed : session.commit engine = (.ok (), after)) :
    ∃ flushed, session.flush engine = (.ok (), flushed) ∧
      after = { flushed with durable := flushed.working } := by
  unfold commit at committed
  cases step : session.flush engine with
  | mk result next =>
    rw [step] at committed
    cases result with
    | error fault => simp at committed
    | ok done =>
      simp only [Prod.mk.injEq, true_and] at committed
      exact ⟨next, rfl, committed.symm⟩

/-- A commit records what was staged. -/
theorem commit_journal (committed : session.commit engine = (.ok (), after)) :
    after.durable.journal = session.working.journal ++ session.staged := by
  obtain ⟨flushed, step, same⟩ := commit_ok committed
  have written := applyAll_ok step
  rw [same]
  exact written.2.2

end Session

/-! ## Rules for runs -/

namespace Script

variable {engine : Engine Tables Sequences Change}

/-- Whatever is planned, a run ends in a state that meets the condition. -/
theorem run_ensures {post : Version Tables Change → Ending Answer → Prop}
    {script : Script Tables Sequences Change Answer} {session : Session Tables Sequences Change}
    (ensured : script.Ensures engine post session) (plan : List Outcome) :
    post (script.run engine session plan).1.durable (script.run engine session plan).2 := by
  induction script generalizing session plan with
  | respond answer => exact ensured
  | raise => exact ensured
  | query next ih =>
    obtain ⟨raised, stopped, rest⟩ := ensured
    simp only [run]
    split
    · exact ih _ _ rest plan.tail
    · exact stopped
    all_goals exact raised
  | stage change next ih => exact ih ensured plan
  | rollback next ih => exact ih ensured plan
  | write change refused next refusedIh ih =>
    obtain ⟨raised, stopped, handled, rest⟩ := ensured
    simp only [run]
    split
    · split
      · rename_i id written step
        exact ih id (rest id written step) plan.tail
      · rename_i rolledBack step
        obtain ⟨sequences, same⟩ := Session.write_error step
        subst same
        exact refusedIh (handled sequences) plan.tail
      · rename_i rolledBack step
        obtain ⟨sequences, same⟩ := Session.write_error step
        subst same
        exact raised
    · exact refusedIh (handled session.sequences) plan.tail
    · exact stopped
    all_goals exact raised
  | commit refused next refusedIh ih =>
    obtain ⟨raised, stopped, handled, rest⟩ := ensured
    simp only [run]
    split
    · split
      · rename_i committed step
        exact ih (rest committed step).2 plan.tail
      · rename_i rolledBack step
        obtain ⟨sequences, same⟩ := Session.commit_error step
        subst same
        exact refusedIh (handled sequences) plan.tail
      · rename_i rolledBack step
        obtain ⟨sequences, same⟩ := Session.commit_error step
        subst same
        exact raised
    · exact refusedIh (handled session.sequences) plan.tail
    · exact stopped
    · exact raised
    · cases step : session.commit engine with
      | mk result after =>
        cases result with
        | ok done => exact (rest after step).1
        | error fault =>
          obtain ⟨sequences, same⟩ := Session.commit_error step
          subst same
          exact raised

/-- Changes that keep a relation between tables and journal one by one keep it together. -/
theorem applyAll_keeps {holds : Version Tables Change → Prop}
    (kept : ∀ version change sequences tables id moved, holds version →
      engine change version.tables sequences = (.ok (tables, id), moved) →
        holds ⟨tables, version.journal ++ [change]⟩)
    {changes : List Change} {session after : Session Tables Sequences Change}
    (before : holds session.working)
    (written : Session.applyAll engine changes session = (.ok (), after)) :
    holds after.working := by
  induction changes generalizing session with
  | nil =>
    have same : session = after := congrArg Prod.snd written
    exact same ▸ before
  | cons change changes ih =>
    obtain ⟨id, next, first, rest⟩ := Session.applyAll_cons_ok written
    obtain ⟨tables, moved, taken, same⟩ := Session.apply_ok first
    refine ih ?_ rest
    rw [same]
    exact kept session.working change session.sequences tables id moved before taken

/-- A flush keeps what every change keeps. -/
theorem flush_keeps {holds : Version Tables Change → Prop}
    (kept : ∀ version change sequences tables id moved, holds version →
      engine change version.tables sequences = (.ok (tables, id), moved) →
        holds ⟨tables, version.journal ++ [change]⟩)
    {session after : Session Tables Sequences Change} (before : holds session.working)
    (written : session.flush engine = (.ok (), after)) : holds after.working := by
  have unstaged : holds ({ session with staged := [] } : Session Tables Sequences Change).working :=
    before
  exact applyAll_keeps kept unstaged written

/-- A relation between tables and journal that every change keeps holds of what any run commits. -/
theorem run_keeps {holds : Version Tables Change → Prop}
    (kept : ∀ version change sequences tables id moved, holds version →
      engine change version.tables sequences = (.ok (tables, id), moved) →
        holds ⟨tables, version.journal ++ [change]⟩)
    (script : Script Tables Sequences Change Answer) {session : Session Tables Sequences Change}
    (durable : holds session.durable) (working : holds session.working) (plan : List Outcome) :
    holds (script.run engine session plan).1.durable := by
  have ensured : script.Ensures engine (fun version _ => holds version) session := by
    clear plan
    induction script generalizing session with
    | respond answer => exact durable
    | raise => exact durable
    | query next ih => exact ⟨durable, durable, ih _ _ durable working⟩
    | stage change next ih => exact ih durable working
    | rollback next ih => exact ih durable durable
    | write change refused next refusedIh ih =>
      refine ⟨durable, durable, fun _ => refusedIh durable durable, fun id written step => ?_⟩
      unfold Session.write at step
      cases flush : session.flush engine with
      | mk result flushed =>
        rw [flush] at step
        cases result with
        | error fault => simp at step
        | ok done =>
          have written := flush_keeps kept working flush
          obtain ⟨tables, moved, taken, same⟩ := Session.apply_ok step
          have untouched := (Session.applyAll_ok flush).1
          refine ih id ?_ ?_
          · rw [same]
            exact untouched ▸ durable
          · rw [same]
            exact kept flushed.working change flushed.sequences tables id moved written taken
    | commit refused next refusedIh ih =>
      refine ⟨durable, durable, fun _ => refusedIh durable durable, fun committed step => ?_⟩
      obtain ⟨flushed, flush, same⟩ := Session.commit_ok step
      have written := flush_keeps kept working flush
      rw [same]
      exact ⟨written, ih written written⟩
  exact run_ensures ensured plan

end Script

/-! ## Changes committed one by one -/

namespace Session

variable {engine : Engine Tables Sequences Change} {session : Session Tables Sequences Change}
  {change : Change}

/-- Nothing is staged, and nothing is written beyond what is committed. -/
def Idle (session : Session Tables Sequences Change) : Prop :=
  session.staged = [] ∧ session.working = session.durable

/-- The session once a change is committed on its own. -/
def afterCommit (session : Session Tables Sequences Change) (change : Change) (tables : Tables)
    (sequences : Sequences) : Session Tables Sequences Change where
  durable := ⟨tables, session.durable.journal ++ [change]⟩
  working := ⟨tables, session.durable.journal ++ [change]⟩
  sequences := sequences
  staged := []

/-- A session that has done nothing is idle. -/
theorem idle_start {tables : Tables} {sequences : Sequences} :
    (start tables sequences : Session Tables Sequences Change).Idle := ⟨rfl, rfl⟩

/-- A session that has just committed is idle. -/
theorem idle_afterCommit {tables : Tables} {sequences : Sequences} :
    (session.afterCommit change tables sequences).Idle := ⟨rfl, rfl⟩

/-- The commit of one change that the database takes. -/
theorem commit_stage_ok {tables : Tables} {id : Nat} {moved : Sequences} (idle : session.Idle)
    (taken : engine change session.durable.tables session.sequences = (.ok (tables, id), moved)) :
    (session.stage change).commit engine = (.ok (), session.afterCommit change tables moved) := by
  obtain ⟨unstaged, same⟩ := idle
  simp only [commit, flush, stage, unstaged, List.nil_append, applyAll, apply, afterCommit, same,
    taken]

/-- The commit of one change that the database does not take. -/
theorem commit_stage_error {fault : Fault} {moved : Sequences} (idle : session.Idle)
    (refused : engine change session.durable.tables session.sequences = (.error fault, moved)) :
    (session.stage change).commit engine = (.error fault, session.reset moved) := by
  obtain ⟨unstaged, same⟩ := idle
  simp only [commit, flush, stage, unstaged, List.nil_append, applyAll, apply, same, refused, reset,
    rollback]

end Session

namespace Script

variable {engine : Engine Tables Sequences Change} {session : Session Tables Sequences Change}
  {change : Change} {rest : Script Tables Sequences Change Answer}

/-- What is committed after a lookup. -/
theorem run_query_durable
    (next : Tables → Sequences → Script Tables Sequences Change Answer) (plan : List Outcome) :
    ((Script.query next).run engine session plan).1.durable =
      if plan.headD .proceeds = .proceeds then
        ((next session.working.tables session.sequences).run engine session plan.tail).1.durable
      else session.durable := by
  cases step : plan.headD .proceeds <;> simp only [run, step] <;> rfl

/-- What is committed after a change with a commit of its own, when the database takes it. -/
theorem run_commitOne_durable {tables : Tables} {id : Nat} {moved : Sequences}
    (idle : session.Idle)
    (taken : engine change session.durable.tables session.sequences = (.ok (tables, id), moved))
    (plan : List Outcome) :
    ((Script.stage change (.commit .raise rest)).run engine session plan).1.durable =
      if plan.headD .proceeds = .proceeds then
        (rest.run engine (session.afterCommit change tables moved) plan.tail).1.durable
      else if plan.headD .proceeds = .unanswered then
        (session.afterCommit change tables moved).durable
      else session.durable := by
  have step := Session.commit_stage_ok idle taken
  cases outcome : plan.headD .proceeds <;> simp only [run, outcome, step] <;> rfl

/-- What is committed after it when the database does not take it. -/
theorem run_commitOne_refused {fault : Fault} {moved : Sequences} (idle : session.Idle)
    (refused : engine change session.durable.tables session.sequences = (.error fault, moved))
    (plan : List Outcome) :
    ((Script.stage change (.commit .raise rest)).run engine session plan).1.durable =
      session.durable := by
  have step := Session.commit_stage_error idle refused
  cases outcome : plan.headD .proceeds <;> cases fault <;> simp only [run, outcome, step] <;> rfl

end Script

end TacacsWeb.Library.UnitOfWork
