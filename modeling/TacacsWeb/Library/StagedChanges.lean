import TacacsWeb.Library.UnitOfWork

/-!
# What a script may stage, and the sequences

Two further rules for units of work. A script whose changes all meet a condition commits only such
changes, whatever the database does. And a relation between tables and sequences that the engine
keeps, however its sequences move, holds of what is committed when a run ends.
-/

namespace TacacsWeb.Library.UnitOfWork

variable {Tables Sequences Change Answer : Type} {engine : Engine Tables Sequences Change}

/-! ## The changes of a script -/

/-- Every change that the script can stage or write meets the condition. -/
def Script.Stages (allowed : Change → Prop) : Script Tables Sequences Change Answer → Prop
  | .respond _ => True
  | .raise => True
  | .query next => ∀ tables sequences, (next tables sequences).Stages allowed
  | .stage change next => allowed change ∧ next.Stages allowed
  | .write change refused next =>
    allowed change ∧ refused.Stages allowed ∧ ∀ id, (next id).Stages allowed
  | .rollback next => next.Stages allowed
  | .commit refused next => refused.Stages allowed ∧ next.Stages allowed

namespace Session

variable {session after : Session Tables Sequences Change} {change : Change}

/-- A write leaves what is committed, and nothing staged, and records what was staged and then the
change. -/
theorem write_ok {id : Nat} (written : session.write engine change = (.ok id, after)) :
    after.durable = session.durable ∧ after.staged = [] ∧
      after.working.journal = session.working.journal ++ session.staged ++ [change] := by
  unfold write at written
  cases step : session.flush engine with
  | mk result flushed =>
    rw [step] at written
    cases result with
    | error fault => simp at written
    | ok done =>
      have first := applyAll_ok step
      obtain ⟨tables, sequences, _, same⟩ := apply_ok written
      rw [same]
      refine ⟨first.1, first.2.1, ?_⟩
      change flushed.working.journal ++ [change] = _
      rw [first.2.2]

/-- A commit leaves nothing staged, and nothing written that is not committed. -/
theorem commit_settles (committed : session.commit engine = (.ok (), after)) :
    after.staged = [] ∧ after.working = after.durable := by
  obtain ⟨flushed, step, same⟩ := commit_ok committed
  have first := applyAll_ok step
  rw [same]
  exact ⟨first.2.1, rfl⟩

/-- Everything committed, written and staged meets a condition. -/
structure Holds (allowed : Change → Prop) (session : Session Tables Sequences Change) : Prop where
  /-- What is committed. -/
  durable : ∀ change ∈ session.durable.journal, allowed change
  /-- What is written. -/
  working : ∀ change ∈ session.working.journal, allowed change
  /-- What is staged. -/
  staged : ∀ change ∈ session.staged, allowed change

/-- A session that has done nothing meets every condition. -/
theorem holds_start (allowed : Change → Prop) (tables : Tables) (sequences : Sequences) :
    (start tables sequences : Session Tables Sequences Change).Holds allowed where
  durable := fun _ listed => absurd listed List.not_mem_nil
  working := fun _ listed => absurd listed List.not_mem_nil
  staged := fun _ listed => absurd listed List.not_mem_nil

namespace Holds

variable {allowed : Change → Prop}

/-- What is rolled back leaves what is committed. -/
theorem reset (held : session.Holds allowed) (sequences : Sequences) :
    (session.reset sequences).Holds allowed where
  durable := held.durable
  working := held.durable
  staged := fun _ listed => absurd listed List.not_mem_nil

/-- One change more is staged. -/
theorem stage (held : session.Holds allowed) (meets : allowed change) :
    (session.stage change).Holds allowed where
  durable := held.durable
  working := held.working
  staged := by
    intro other listed
    rcases List.mem_append.mp listed with earlier | last
    · exact held.staged other earlier
    · rw [List.mem_singleton.mp last]
      exact meets

/-- What was staged is written, and one change more. -/
theorem write (held : session.Holds allowed) (meets : allowed change) {id : Nat}
    (written : session.write engine change = (.ok id, after)) : after.Holds allowed := by
  obtain ⟨durable, staged, journal⟩ := write_ok written
  refine ⟨?_, ?_, ?_⟩
  · rw [durable]
    exact held.durable
  · rw [journal]
    intro other listed
    rcases List.mem_append.mp listed with earlier | last
    · rcases List.mem_append.mp earlier with first | second
      · exact held.working other first
      · exact held.staged other second
    · rw [List.mem_singleton.mp last]
      exact meets
  · rw [staged]
    exact fun _ listed => absurd listed List.not_mem_nil

/-- What was staged is committed. -/
theorem commit (held : session.Holds allowed)
    (committed : session.commit engine = (.ok (), after)) : after.Holds allowed := by
  obtain ⟨staged, same⟩ := commit_settles committed
  have journal := commit_journal committed
  have durable : ∀ other ∈ after.durable.journal, allowed other := by
    rw [journal]
    intro other listed
    rcases List.mem_append.mp listed with first | second
    · exact held.working other first
    · exact held.staged other second
  refine ⟨durable, ?_, ?_⟩
  · rw [same]
    exact durable
  · rw [staged]
    exact fun _ listed => absurd listed List.not_mem_nil

end Holds

end Session

namespace Script

/-- A script commits only changes that it may stage. -/
theorem run_journal {allowed : Change → Prop} {script : Script Tables Sequences Change Answer}
    (stages : script.Stages allowed) {session : Session Tables Sequences Change}
    (held : session.Holds allowed) (plan : List Outcome) :
    ∀ change ∈ (script.run engine session plan).1.durable.journal, allowed change := by
  have ensured : script.Ensures engine
      (fun version _ => ∀ change ∈ version.journal, allowed change) session := by
    clear plan
    induction script generalizing session with
    | respond answer => exact held.durable
    | raise => exact held.durable
    | query next ih =>
      exact ⟨held.durable, held.durable, ih _ _ (stages _ _) held⟩
    | stage change next ih => exact ih stages.2 (held.stage stages.1)
    | rollback next ih => exact ih stages (held.reset session.sequences)
    | write change refused next refusedIh ih =>
      obtain ⟨meets, refusedStages, nextStages⟩ := stages
      exact ⟨held.durable, held.durable, fun moved => refusedIh refusedStages (held.reset moved),
        fun id written step => ih id (nextStages id) (held.write meets step)⟩
    | commit refused next refusedIh ih =>
      obtain ⟨refusedStages, nextStages⟩ := stages
      exact ⟨held.durable, held.durable, fun moved => refusedIh refusedStages (held.reset moved),
        fun committed step =>
          ⟨(held.commit step).durable, ih nextStages (held.commit step)⟩⟩
  exact run_ensures ensured plan

/-- A relation between tables and journal that the changes of a script keep holds of what any run of
it from untouched tables commits. -/
theorem run_keeps_staged {holds : Version Tables Change → Prop} {allowed : Change → Prop}
    (kept : ∀ version change sequences tables id moved, allowed change → holds version →
      engine change version.tables sequences = (.ok (tables, id), moved) →
        holds ⟨tables, version.journal ++ [change]⟩)
    {script : Script Tables Sequences Change Answer} (stages : script.Stages allowed)
    {tables : Tables} (sequences : Sequences) (before : holds ⟨tables, []⟩)
    (plan : List Outcome) :
    holds (script.run engine (.start tables sequences) plan).1.durable := by
  let whenAllowed : Version Tables Change → Prop := fun version =>
    (∀ change ∈ version.journal, allowed change) → holds version
  have journalKept : ∀ version change moved after id next, whenAllowed version →
      engine change version.tables moved = (.ok (after, id), next) →
        whenAllowed ⟨after, version.journal ++ [change]⟩ := by
    intro version change moved after id next earlier taken all
    have meets : allowed change := all change (by simp)
    have first : holds version :=
      earlier fun other listed => all other (List.mem_append_left _ listed)
    exact kept version change moved after id next meets first taken
  have started : whenAllowed ⟨tables, []⟩ := fun _ => before
  have ended : whenAllowed (script.run engine (.start tables sequences) plan).1.durable :=
    run_keeps journalKept script started started plan
  exact ended (run_journal stages (Session.holds_start allowed tables sequences) plan)

/-- A script that begins with a query goes on from untouched tables, which it has seen, or ends with
them. -/
theorem run_query_start {holds : Version Tables Change → Prop}
    {next : Tables → Sequences → Script Tables Sequences Change Answer} {tables : Tables}
    {sequences : Sequences} (before : holds ⟨tables, []⟩)
    (seen : ∀ plan, holds
      ((next tables sequences).run engine (.start tables sequences) plan).1.durable)
    (plan : List Outcome) :
    holds ((Script.query next).run engine (.start tables sequences) plan).1.durable := by
  simp only [Script.run]
  split
  · exact seen plan.tail
  all_goals exact before

end Script

/-! ## Tables and sequences -/

/-- An engine keeps a relation between tables and sequences: a change that is taken leads to related
ones, and sequences that have moved on are related to all tables that they were related to. -/
structure Numbers (engine : Engine Tables Sequences Change) (holds : Tables → Sequences → Prop) :
    Prop where
  /-- A change that is taken. -/
  taken : ∀ change tables sequences after id moved, holds tables sequences →
    engine change tables sequences = (.ok (after, id), moved) → holds after moved
  /-- The sequences after a change, taken or not. -/
  moved : ∀ change tables sequences other, holds other sequences →
    holds other (engine change tables sequences).2

/-- The relation holds of what is committed and of what is written. -/
structure Session.Agrees (holds : Tables → Sequences → Prop)
    (session : Session Tables Sequences Change) : Prop where
  /-- What is committed. -/
  durable : holds session.durable.tables session.sequences
  /-- What is written. -/
  working : holds session.working.tables session.sequences

namespace Numbers

variable {holds : Tables → Sequences → Prop} {session : Session Tables Sequences Change}

/-- Writing one change. -/
theorem apply (numbers : Numbers engine holds) (change : Change) (agrees : session.Agrees holds) :
    (session.apply engine change).2.Agrees holds := by
  have kept := numbers.moved change session.working.tables session.sequences
    session.durable.tables agrees.durable
  unfold Session.apply
  cases answer : engine change session.working.tables session.sequences with
  | mk result sequences =>
    rw [answer] at kept
    cases result with
    | error fault => exact ⟨kept, kept⟩
    | ok outcome =>
      exact ⟨kept, numbers.taken change session.working.tables session.sequences outcome.1
        outcome.2 sequences agrees.working answer⟩

/-- Writing changes in order. -/
theorem applyAll (numbers : Numbers engine holds) {changes : List Change}
    (agrees : session.Agrees holds) :
    (Session.applyAll engine changes session).2.Agrees holds := by
  induction changes generalizing session with
  | nil => exact agrees
  | cons change changes ih =>
    have first := numbers.apply change agrees
    unfold Session.applyAll
    cases step : session.apply engine change with
    | mk result next =>
      rw [step] at first
      cases result with
      | error fault => exact first
      | ok id => exact ih first

/-- Writing what is staged. -/
theorem flush (numbers : Numbers engine holds) (agrees : session.Agrees holds) :
    (session.flush engine).2.Agrees holds :=
  numbers.applyAll ⟨agrees.durable, agrees.working⟩

/-- Writing what is staged and one change more. -/
theorem write (numbers : Numbers engine holds) (change : Change) (agrees : session.Agrees holds) :
    (session.write engine change).2.Agrees holds := by
  have first := numbers.flush agrees
  unfold Session.write
  cases step : session.flush engine with
  | mk result next =>
    rw [step] at first
    cases result with
    | error fault => exact first
    | ok done => exact numbers.apply change first

/-- Committing what is staged. -/
theorem commit (numbers : Numbers engine holds) (agrees : session.Agrees holds) :
    (session.commit engine).2.Agrees holds := by
  have first := numbers.flush agrees
  unfold Session.commit
  cases step : session.flush engine with
  | mk result next =>
    rw [step] at first
    cases result with
    | error fault => exact first
    | ok done => exact ⟨first.working, first.working⟩

/-- Giving up the transaction. -/
theorem rollback (agrees : session.Agrees holds) : session.rollback.Agrees holds :=
  ⟨agrees.durable, agrees.durable⟩

/-- Whatever is planned, a run ends in a session whose sequences are related to its tables. -/
theorem run (numbers : Numbers engine holds) (script : Script Tables Sequences Change Answer)
    (agrees : session.Agrees holds) (plan : List Outcome) :
    (script.run engine session plan).1.Agrees holds := by
  induction script generalizing session plan with
  | respond answer => exact agrees
  | raise => exact agrees
  | query next ih =>
    simp only [Script.run]
    split
    · exact ih _ _ agrees plan.tail
    all_goals exact agrees
  | stage change next ih =>
    have staged : (session.stage change).Agrees holds := ⟨agrees.durable, agrees.working⟩
    exact ih staged plan
  | rollback next ih => exact ih (rollback agrees) plan
  | write change refused next refusedIh ih =>
    have written := numbers.write change agrees
    simp only [Script.run]
    split
    · split
      · rename_i id after step
        rw [step] at written
        exact ih id written plan.tail
      · rename_i after step
        rw [step] at written
        exact refusedIh written plan.tail
      · rename_i after step
        rw [step] at written
        exact written
    · exact refusedIh (rollback agrees) plan.tail
    all_goals exact agrees
  | commit refused next refusedIh ih =>
    have committed := numbers.commit agrees
    simp only [Script.run]
    split
    · split
      · rename_i after step
        rw [step] at committed
        exact ih committed plan.tail
      · rename_i after step
        rw [step] at committed
        exact refusedIh committed plan.tail
      · rename_i after step
        rw [step] at committed
        exact committed
    · exact refusedIh (rollback agrees) plan.tail
    · exact agrees
    · exact agrees
    · exact committed

end Numbers

end TacacsWeb.Library.UnitOfWork
