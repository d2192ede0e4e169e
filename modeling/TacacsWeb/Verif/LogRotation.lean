import TacacsWeb.Model.LogRotation
import TacacsWeb.Verif.IngestedOnce

/-!
# Ingestion across rotations

A rotation is noticed by a size that is below a position or below the saved offset. As long
as the new log is still that short whenever the ingestor looks, every reading of it starts at
its beginning, and each of its lines is ingested once.
-/

namespace TacacsWeb.Verif

open TacacsWeb.Library TacacsWeb.Model

variable {Instant : Type}

/-! ## The property -/

/-- The end of the lines of the log whose records are committed. -/
def markOf (state : RotatingSystem Instant) : Nat := if state.offsetStale then 0 else state.offset

/-- The records that the ingestor holds. -/
def InHand (records : List (ParsedRecord Instant)) : TailPhase Instant → Prop
  | .parsed rec _ => records = [rec]
  | .staged row _ => ∃ rec devices, row = persistOne devices rec ∧ records = [rec]
  | _ => records = []

/-- A renamed file that is still open has no more records. -/
def NoneLeft (times : TimeReader Instant) (renamed : Option (List UInt8)) (position : Nat) :
    Prop :=
  ∀ old, renamed = some old → ∃ more, (∀ line ∈ more, PlainLine line) ∧
    old.drop position = logBytes more ∧ parsedRecords times more = []

/-- What the ingestor holds comes from the log, or from a content that was rotated out. -/
structure HeldNow (times : TimeReader Instant) (front back : List (List Char))
    (state : RotatingSystem Instant) : Prop where
  /-- Without an open file there is no renamed one. -/
  closed : state.phase.openAt = none → state.renamed = none
  /-- Nothing of the log is committed when the offset is set to zero. -/
  resetting : state.phase = .resetting → front = []
  /-- A position in the log comes from the lines that are not committed. -/
  current : state.readerStale = false → state.phase ≠ .resetting →
    state.renamed = none ∧ HeldFrom times front back state.phase
  /-- Nothing of the log is committed while the ingestor is behind. -/
  behind : state.readerStale = true → state.phase ≠ .waiting → front = []
  /-- An ingestor that is behind finds no more records. -/
  noneLeft : state.readerStale = true → ∀ position, state.phase.openAt = some position →
    NoneLeft times state.renamed position

/-- The records that the ingestor holds of a content that was rotated out. -/
def StaleInHand (records : List (ParsedRecord Instant)) (state : RotatingSystem Instant) : Prop :=
  if state.readerStale then InHand records state.phase else records = []

/-- The rows come from what was rotated out and from the front of the log. -/
structure Kept (times : TimeReader Instant) (past front back : List (List Char))
    (state : RotatingSystem Instant) : Prop where
  /-- The lines are plain. -/
  plain : ∀ line ∈ past ++ (front ++ back), PlainLine line
  /-- The lines rotated out. -/
  rotated : state.rotated = logBytes past
  /-- The lines of the log. -/
  log : state.log.getD [] = logBytes (front ++ back)
  /-- The committed lines of the log end at the offset. -/
  mark : markOf state = (logBytes front).length
  /-- The rows are those of records rotated out, and those of the front. -/
  rows : ∃ ingested held earlier current, state.rows = earlier ++ current ∧
    RowsOf ingested earlier ∧ StaleInHand held state ∧
    (ingested ++ held).Sublist (parsedRecords times past) ∧
    RowsOf (parsedRecords times front) current
  /-- Where the ingestor is. -/
  held : HeldNow times front back state

variable {times : TimeReader Instant} {past front back : List (List Char)}
  {state next : RotatingSystem Instant}

/-- A change of neither the log nor the database keeps the rows. -/
theorem Kept.move (kept : Kept times past front back state) {after : RotatingSystem Instant}
    (log : after.log.getD [] = state.log.getD []) (rotated : after.rotated = state.rotated)
    (rows : after.rows = state.rows) (mark : markOf after = markOf state)
    (hand : ∀ records, StaleInHand records state →
      ∃ fewer, StaleInHand fewer after ∧ fewer.Sublist records)
    (held : HeldNow times front back after) : Kept times past front back after := by
  refine ⟨kept.plain, rotated.trans kept.rotated, log.trans kept.log, mark.trans kept.mark, ?_,
    held⟩
  obtain ⟨ingested, records, earlier, current, split, old, inHand, listed, new⟩ := kept.rows
  obtain ⟨fewer, stillInHand, sublist⟩ := hand records inHand
  refine ⟨ingested, fewer, earlier, current, rows.trans split, old, stillInHand, ?_, new⟩
  exact (List.Sublist.append_left sublist ingested).trans listed

/-- A line of another user, as long as the first. -/
def otherLine : List Char := "1\tn\tv\tp\tc\tk\tstop\tservice=shell".toList

/-- The ingestor on a log that has never been rotated. -/
def neverRotated (state : TailSystem Instant) : RotatingSystem Instant :=
  ⟨some state.file, none, state.rows, state.offset, state.phase, [], false, false⟩

/-- Without rotations the ingestor takes the steps that it took before. -/
theorem tailStep_neverRotated {state next : TailSystem Instant} {label : TailLabel}
    (stepped : TailSystem.step times state label = some next) :
    RotatingSystem.step times (neverRotated state) (.tail label) = some (neverRotated next) := by
  have closed : ∀ phase : TailPhase Instant, (neverRotated state).enter phase =
      neverRotated { state with phase } := by
    intro phase
    simp only [RotatingSystem.enter, neverRotated, ite_self]
  have commits : ∀ (rows : List (AccountingRecord Instant)) (offset : Nat)
      (returned : TailPhase Instant) (outcome : CommitOutcome),
      (neverRotated state).commit rows offset false returned outcome =
        neverRotated (state.commit rows offset returned outcome) := by
    intro rows offset returned outcome
    cases outcome <;> simp only [RotatingSystem.commit, closed] <;> rfl
  cases label with
  | append bytes =>
    obtain rfl := Option.some.inj stepped
    rfl
  | interrupt =>
    obtain rfl := Option.some.inj stepped
    exact congrArg some (closed .waiting)
  | load =>
    cases phase : state.phase with
    | waiting =>
      have here : (neverRotated state).phase = .waiting := phase
      simp only [TailSystem.step, phase] at stepped
      simp only [RotatingSystem.step, here, closed]
      split at stepped
      · rename_i shrunk
        obtain rfl := Option.some.inj stepped
        exact if_pos shrunk
      · rename_i fits
        obtain rfl := Option.some.inj stepped
        exact if_neg fits
    | _ => simp [TailSystem.step, phase] at stepped
  | openFile =>
    cases phase : state.phase with
    | loaded offset =>
      have here : (neverRotated state).phase = .loaded offset := phase
      simp only [TailSystem.step, phase] at stepped
      obtain rfl := Option.some.inj stepped
      simp only [RotatingSystem.step, here, closed]
      rfl
    | _ => simp [TailSystem.step, phase] at stepped
  | readLine =>
    cases phase : state.phase with
    | reading position =>
      have here : (neverRotated state).phase = .reading position := phase
      simp only [TailSystem.step, phase] at stepped
      obtain rfl := Option.some.inj stepped
      simp only [RotatingSystem.step, here, closed]
      rfl
    | _ => simp [TailSystem.step, phase] at stepped
  | persist devices =>
    cases phase : state.phase with
    | parsed rec position =>
      have here : (neverRotated state).phase = .parsed rec position := phase
      simp only [TailSystem.step, phase] at stepped
      obtain rfl := Option.some.inj stepped
      simp only [RotatingSystem.step, here, closed]
    | _ => simp [TailSystem.step, phase] at stepped
  | commit outcome =>
    cases phase : state.phase with
    | resetting =>
      have here : (neverRotated state).phase = .resetting := phase
      simp only [TailSystem.step, phase] at stepped
      obtain rfl := Option.some.inj stepped
      simp only [RotatingSystem.step, here, commits]
    | staged row position =>
      have here : (neverRotated state).phase = .staged row position := phase
      simp only [TailSystem.step, phase] at stepped
      obtain rfl := Option.some.inj stepped
      simp only [RotatingSystem.step, here]
      exact congrArg some (commits [row] position (.reading position) outcome)
    | _ => simp [TailSystem.step, phase] at stepped

/-- Every run without rotations is one of the ingestor with them. -/
theorem tailRun_neverRotated {labels : List TailLabel} {state final : TailSystem Instant}
    (ran : Step.run (TailSystem.step times) state labels = some final) :
    ∃ rotationLabels, Step.run (RotatingSystem.step times) (neverRotated state) rotationLabels =
      some (neverRotated final) :=
  Step.run_simulates neverRotated
    (fun _ label _ stepped =>
      ⟨[.tail label], Step.run_cons.mpr ⟨_, tailStep_neverRotated stepped, rfl⟩⟩) ran

end TacacsWeb.Verif
