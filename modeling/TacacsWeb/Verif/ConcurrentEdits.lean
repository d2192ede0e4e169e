import TacacsWeb.Verif.DeviceEdits

/-!
# Two edits of one device at once

Nothing compares versions, so an edit may commit on a row that has changed since it was loaded.
The secrets it leaves are those of a serial order except in one situation: a rotation commits
over another change of the current secret, and then moves the secret that it loaded, not the one
it replaces, to the previous slot.
-/

namespace TacacsWeb.Verif

open TacacsWeb.Library TacacsWeb.Model ReadModifyWrite

/-! ## The two secrets -/

/-- The current and the previous secret. -/
abbrev Secrets := Option String × Option String

/-- The secrets of a row. -/
def secretsOf (row : Device) : Secrets := (row.currentSecretEnc, row.previousSecretEnc)

/-- What an edit makes of the secrets it loaded. -/
def editedSecrets (edit : DeviceEdit) (secrets : Secrets) : Secrets :=
  match edit with
  | .update payload => ((newCurrent (.update payload)).or secrets.1, secrets.2)
  | .rotateSecret payload => (some payload.newSecret, secrets.1)
  | .retirePrevious _ => (secrets.1, none)

/-- The secrets of a row once an edit that loaded others has written those it changed. -/
def overwritten (edit : DeviceEdit) (loaded present : Secrets) : Secrets :=
  ((changedTo loaded.1 (editedSecrets edit loaded).1).getD present.1,
    (changedTo loaded.2 (editedSecrets edit loaded).2).getD present.2)

/-- An edited row has the edited secrets. -/
theorem secretsOf_edited (edit : DeviceEdit) (row : Device) :
    secretsOf (edited edit row) = editedSecrets edit (secretsOf row) := by
  cases edit <;> rfl

/-- The columns of an edit overwrite the secrets that it changed. -/
theorem secretsOf_apply (edit : DeviceEdit) (loaded present : Device) :
    secretsOf ((writtenColumns edit loaded).apply present) =
      overwritten edit (secretsOf loaded) (secretsOf present) := by
  cases edit <;> rfl

/-- A rotation commits over another change of the current secret, which it has not loaded. The
two changes agree only when the other one is a PATCH to the secret of the rotation. -/
def LosesSecret (loaded : Option String) (earlier later : DeviceEdit) : Prop :=
  ∃ payload secret, later = .rotateSecret payload ∧ newCurrent earlier = some secret ∧
    loaded ≠ some payload.newSecret ∧ loaded ≠ some secret ∧
    ¬((∃ change, earlier = .update change) ∧ secret = payload.newSecret)

/-- A column after it has been written, if it was, on another value. -/
theorem changedTo_getD_of {Value : Type} [DecidableEq Value] (loaded value present : Value) :
    (changedTo loaded value).getD present = if value = loaded then present else value := by
  unfold changedTo
  split <;> rfl

/-- A PATCH that commits last loses no secret. -/
theorem overwritten_update (payload : DeviceUpdate) (earlier : DeviceEdit) (secrets : Secrets) :
    overwritten (.update payload) secrets (editedSecrets earlier secrets) =
        editedSecrets (.update payload) (editedSecrets earlier secrets) ∨
      overwritten (.update payload) secrets (editedSecrets earlier secrets) =
        editedSecrets earlier (editedSecrets (.update payload) secrets) := by
  obtain ⟨current, previous⟩ := secrets
  simp only [overwritten, changedTo_getD_of]
  cases given : newCurrent (.update payload) with
  | none =>
    left
    simp [editedSecrets, given]
  | some secret =>
    by_cases same : some secret = current
    · -- The secret is the one loaded, so that the PATCH might as well have come first.
      right
      simp [editedSecrets, given, same]
    · left
      simp [editedSecrets, given, same]

/-- A retirement that commits last loses no secret. -/
theorem overwritten_retirePrevious (now : Nat) (earlier : DeviceEdit) (secrets : Secrets) :
    overwritten (.retirePrevious now) secrets (editedSecrets earlier secrets) =
        editedSecrets (.retirePrevious now) (editedSecrets earlier secrets) ∨
      overwritten (.retirePrevious now) secrets (editedSecrets earlier secrets) =
        editedSecrets earlier (editedSecrets (.retirePrevious now) secrets) := by
  obtain ⟨current, previous⟩ := secrets
  simp only [overwritten, changedTo_getD_of]
  by_cases empty : none = previous
  · -- Nothing was in the slot, so that the retirement might as well have come first.
    right
    simp [editedSecrets, ← empty]
  · left
    simp [editedSecrets, empty]

/-- A rotation that commits last leaves the secrets of a serial order unless it loses one. -/
theorem overwritten_rotateSecret (payload : DeviceRotateSecret) (earlier : DeviceEdit)
    (secrets : Secrets) :
    (overwritten (.rotateSecret payload) secrets (editedSecrets earlier secrets) =
        editedSecrets (.rotateSecret payload) (editedSecrets earlier secrets) ∨
      overwritten (.rotateSecret payload) secrets (editedSecrets earlier secrets) =
        editedSecrets earlier (editedSecrets (.rotateSecret payload) secrets)) ↔
    ¬LosesSecret secrets.1 earlier (.rotateSecret payload) := by
  obtain ⟨current, previous⟩ := secrets
  have lost : LosesSecret current earlier (.rotateSecret payload) ↔
      ∃ secret, newCurrent earlier = some secret ∧ current ≠ some payload.newSecret ∧
        current ≠ some secret ∧
        ¬((∃ change, earlier = .update change) ∧ secret = payload.newSecret) := by
    constructor
    · rintro ⟨_, secret, same, rest⟩
      obtain rfl := DeviceEdit.rotateSecret.inj same
      exact ⟨secret, rest⟩
    · rintro ⟨secret, rest⟩
      exact ⟨payload, secret, rfl, rest⟩
  rw [lost]
  simp only [overwritten, changedTo_getD_of]
  cases earlier with
  | update change =>
    cases given : newCurrent (.update change) with
    | none => grind [editedSecrets]
    | some secret => grind [editedSecrets]
  | rotateSecret other => grind [editedSecrets, newCurrent]
  | retirePrevious now => grind [editedSecrets, newCurrent]

/-- Overlapping edits leave the secrets of a serial order unless one is lost. -/
theorem overwritten_eq_serial_iff (earlier later : DeviceEdit) (secrets : Secrets) :
    (overwritten later secrets (editedSecrets earlier secrets) =
        editedSecrets later (editedSecrets earlier secrets) ∨
      overwritten later secrets (editedSecrets earlier secrets) =
        editedSecrets earlier (editedSecrets later secrets)) ↔
    ¬LosesSecret secrets.1 earlier later := by
  cases later with
  | update payload =>
    have kept : ¬LosesSecret secrets.1 earlier (.update payload) := by
      rintro ⟨_, _, same, -⟩
      cases same
    exact iff_of_true (overwritten_update payload earlier secrets) kept
  | rotateSecret payload => exact overwritten_rotateSecret payload earlier secrets
  | retirePrevious now =>
    have kept : ¬LosesSecret secrets.1 earlier (.retirePrevious now) := by
      rintro ⟨_, _, same, -⟩
      cases same
    exact iff_of_true (overwritten_retirePrevious now earlier secrets) kept

/-! ## Serial and overlapping transactions -/

section Transactions

variable {printable : Char → Bool} {tables after : DeviceTables} {deviceId : Nat}
  {earlier later : DeviceEdit} {row : Device}

/-- The secrets of a device are those of its row. -/
theorem secrets_of_row (found : tables.row deviceId = some row) :
    tables.secrets deviceId = some (secretsOf row) := by
  rw [DeviceTables.secrets, found, Option.map_some]
  rfl

/-- One edit after the other edits the secrets twice. -/
theorem serial_secrets (constraints : tables.Constraints)
    (found : tables.row deviceId = some row)
    (succeeded : (deviceEdits printable deviceId).serial tables earlier later = some after) :
    after.secrets deviceId =
      some (editedSecrets later (editedSecrets earlier (secretsOf row))) := by
  obtain ⟨middle, first, second⟩ := Option.bind_eq_some_iff.mp succeeded
  have kept := alone_constraints constraints found first
  have between := alone_row constraints found first
  rw [secrets_of_row (alone_row kept between second), secretsOf_edited, secretsOf_edited]

/-- Edits that fit can be made one after the other. -/
theorem serial_succeeds (printable : Char → Bool) (constraints : tables.Constraints)
    (found : tables.row deviceId = some row) (first : Fits tables deviceId earlier)
    (second : Fits tables deviceId later) :
    ∃ after, (deviceEdits printable deviceId).serial tables earlier later = some after := by
  have one : (deviceEdits printable deviceId).alone tables earlier =
      some (withColumns tables deviceId (writtenColumns earlier row)) :=
    (alone_eq_some constraints found).mpr ⟨first, rfl⟩
  have kept := alone_constraints constraints found one
  have between := alone_row constraints found one
  have two := (@alone_eq_some printable _ _ _ _ _ kept between).mpr
    ⟨second.withColumns _, rfl⟩
  exact ⟨_, Option.bind_eq_some_iff.mpr ⟨_, one, two⟩⟩

/-- Overlapping edits fit, and the later one overwrites the secrets that it changed. -/
theorem overlapped_eq_some (constraints : tables.Constraints)
    (succeeded : (deviceEdits printable deviceId).overlapped tables earlier later = some after) :
    ∃ row, tables.row deviceId = some row ∧ Fits tables deviceId earlier ∧
      Fits tables deviceId later ∧ after.secrets deviceId =
        some (overwritten later (secretsOf row) (editedSecrets earlier (secretsOf row))) := by
  obtain ⟨change, loaded, rest⟩ := Option.bind_eq_some_iff.mp succeeded
  obtain ⟨laterChange, laterLoaded, rest⟩ := Option.bind_eq_some_iff.mp rest
  obtain ⟨middle, committed, rest⟩ := Option.bind_eq_some_iff.mp rest
  obtain ⟨row, found, known, written⟩ := load_eq_some loaded
  obtain ⟨other, same, laterKnown, laterWritten⟩ := load_eq_some laterLoaded
  obtain rfl := Option.some.inj (same.symm.trans found)
  obtain ⟨fine, rfl⟩ := (commit_eq_some found written).mp committed
  have between := row_withColumns (writtenColumns earlier other) found
  obtain ⟨laterFine, rfl⟩ := (commit_eq_some between laterWritten).mp rest
  rw [violates_withColumns] at laterFine
  refine ⟨other, found, fits_of_fine constraints found known fine,
    fits_of_fine constraints found laterKnown laterFine, ?_⟩
  rw [secrets_of_row (row_withColumns _ between), secretsOf_apply, writtenColumns_apply,
    secretsOf_edited]

end Transactions

/-! ## Every interleaving -/

/-- The secrets of a device are those that some serial order of two edits leaves. -/
def Serialisable (printable : Char → Bool) (deviceId : Nat) (tables : DeviceTables)
    (requests : Party → DeviceEdit) (after : DeviceTables) : Prop :=
  ∃ earlier : Party, ∃ serial, (deviceEdits printable deviceId).serial tables (requests earlier)
    (requests earlier.other) = some serial ∧ after.secrets deviceId = serial.secrets deviceId

/-- In a schedule, both edits load the row before either commits, and the one that commits last
is a rotation that loses the secret of the other. -/
def SecretLost (deviceId : Nat) (tables : DeviceTables) (requests : Party → DeviceEdit)
    (schedule : List Party) : Prop :=
  overlaps schedule = true ∧ ∃ (last : Party) (row : Device), schedule.getLast? = some last ∧
    tables.row deviceId = some row ∧
    LosesSecret row.currentSecretEnc (requests last.other) (requests last)

/-- Two edits of one device that both succeed, in any interleaving, leave the secrets of a serial
order unless one commits as a rotation over a change of the current secret that it has not loaded.
-/
theorem edits_serialisable_iff (printable : Char → Bool) (deviceId : Nat)
    (tables : DeviceTables) (requests : Party → DeviceEdit) (schedule : List Party)
    (final : Pair DeviceTables DeviceEdit PreparedChange) (constraints : tables.Constraints)
    (ran : (deviceEdits printable deviceId).step.run (.start tables requests) schedule =
      some final) (done : final.Finished) :
    Serialisable printable deviceId tables requests final.state ↔
      ¬SecretLost deviceId tables requests schedule := by
  obtain ⟨last, ends, outcome⟩ := run_outcome ran done
  by_cases apart : overlaps schedule = true
  · rw [if_pos apart] at outcome
    obtain ⟨row, found, first, second, left⟩ := overlapped_eq_some constraints outcome
    have lost : SecretLost deviceId tables requests schedule ↔
        LosesSecret row.currentSecretEnc (requests last.other) (requests last) := by
      constructor
      · rintro ⟨-, other, same, ends', found', loses⟩
        obtain rfl := Option.some.inj (ends'.symm.trans ends)
        obtain rfl := Option.some.inj (found'.symm.trans found)
        exact loses
      · exact fun loses => ⟨apart, last, row, ends, found, loses⟩
    rw [lost, ← show (secretsOf row).1 = row.currentSecretEnc from rfl,
      ← overwritten_eq_serial_iff]
    constructor
    · rintro ⟨party, serial, succeeded, same⟩
      rw [left, serial_secrets constraints found succeeded] at same
      rcases party.eq_or_eq_other last with rfl | rfl
      · exact .inr (Option.some.inj same)
      · rw [Party.other_other] at same
        exact .inl (Option.some.inj same)
    · rintro (same | same)
      · obtain ⟨serial, succeeded⟩ := serial_succeeds printable constraints found first second
        refine ⟨last.other, serial, by rwa [Party.other_other], ?_⟩
        rw [left, serial_secrets constraints found succeeded, same]
      · obtain ⟨serial, succeeded⟩ := serial_succeeds printable constraints found second first
        refine ⟨last, serial, succeeded, ?_⟩
        rw [left, serial_secrets constraints found succeeded, same]
  · rw [if_neg apart] at outcome
    refine iff_of_true ⟨last.other, final.state, by rwa [Party.other_other], rfl⟩ ?_
    exact fun lost => apart lost.1

/-- A rotation and the retirement of the secret before. -/
def rotateAndRetire : Party → DeviceEdit
  | .first => .rotateSecret ⟨"s1", by decide⟩
  | .second => .retirePrevious 7

/-- A retirement may overlap with a rotation. -/
theorem edits_serialisable_iff_retire : ∃ final,
    (deviceEdits (fun _ => true) 1).step.run (.start oneSecret rotateAndRetire)
      [.first, .second, .first, .second] = some final ∧
    Serialisable (fun _ => true) 1 oneSecret rotateAndRetire final.state := by
  refine ⟨_, rfl, ?_⟩
  refine (edits_serialisable_iff (fun _ => true) 1 oneSecret rotateAndRetire
    [.first, .second, .first, .second] _ oneSecret_constraints rfl ?_).mpr ?_
  · intro party
    cases party <;> rfl
  · rintro ⟨-, last, row, ends, -, payload, secret, same, -⟩
    obtain rfl := Option.some.inj ends
    cases same

/-- Two rotations to different secrets. -/
def rotateTwice : Party → DeviceEdit
  | .first => .rotateSecret ⟨"s1", by decide⟩
  | .second => .rotateSecret ⟨"s2", by decide⟩

/-- Two rotations that load the same row lose the secret of the first: neither order of them
leaves the original secret behind the second one. -/
theorem rotateTwice_not_serialisable :
    ¬ ∀ (tables : DeviceTables) (requests : Party → DeviceEdit) (schedule : List Party)
      (final : Pair DeviceTables DeviceEdit PreparedChange), tables.Constraints →
      (deviceEdits (fun _ => true) 1).step.run (.start tables requests) schedule = some final →
      final.Finished → Serialisable (fun _ => true) 1 tables requests final.state := by
  intro claimed
  obtain ⟨earlier, serial, succeeded, same⟩ := claimed oneSecret rotateTwice
    [.first, .second, .first, .second] _ oneSecret_constraints rfl
    (fun party => by cases party <;> rfl)
  cases earlier with
  | first =>
    obtain rfl := Option.some.inj succeeded
    revert same
    decide
  | second =>
    obtain rfl := Option.some.inj succeeded
    revert same
    decide

end TacacsWeb.Verif
