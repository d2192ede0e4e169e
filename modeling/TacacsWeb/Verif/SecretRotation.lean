import TacacsWeb.Model.NasConfig
import TacacsWeb.Verif.DeviceEdits

/-!
# Which secrets a rotated device accepts

A device has two slots. A secret that was current stays a rendered key until it is retired from
the previous slot, or until a further rotation pushes it out of that slot.
-/

namespace TacacsWeb.Verif

open TacacsWeb.Library TacacsWeb.Model

/-! ## Keys of a block -/

/-- A secret is a key of the block that is rendered for a device. -/
def IsKey (tables : DeviceTables) (deviceId : Nat) (secret : String) : Prop :=
  ∃ block ∈ hostBlocks tables.devices, block.device.id = deviceId ∧ keyLine secret ∈ block.lines

instance (tables : DeviceTables) (deviceId : Nat) (secret : String) :
    Decidable (IsKey tables deviceId secret) :=
  inferInstanceAs (Decidable (∃ block ∈ hostBlocks tables.devices,
    block.device.id = deviceId ∧ keyLine secret ∈ block.lines))

/-- The loop renders every device with its own secret. -/
theorem foldl_renderStep_secret (devices : List Device) (state : List HostBlock × List String)
    (own : ∀ block ∈ state.1, provisionedSecret block.device = some block.secret) :
    ∀ block ∈ (devices.foldl renderStep state).1,
      provisionedSecret block.device = some block.secret := by
  induction devices generalizing state with
  | nil => exact own
  | cons device devices ih =>
    rw [List.foldl_cons]
    refine ih _ ?_
    unfold renderStep
    cases secret : provisionedSecret device with
    | none => exact own
    | some value =>
      intro block listed
      rcases List.mem_append.mp listed with before | new
      · exact own block before
      · obtain rfl := List.mem_singleton.mp new
        exact secret

/-- A secret is in one of the two slots of a row. -/
def InSlot (row : Device) (secret : String) : Prop :=
  row.currentSecretEnc = some secret ∨ row.previousSecretEnc = some secret

/-- The secrets in the slots of a provisioned device are keys of its block. -/
theorem isKey_of_inSlot {tables : DeviceTables} {row : Device} {secret : String}
    (listed : row ∈ tables.devices) (provisioned : isProvisioned row = true)
    (nonempty : secret ≠ "") (inSlot : InSlot row secret) : IsKey tables row.id secret := by
  obtain ⟨block, present, rfl⟩ := mem_hostBlocks_device.mpr ⟨listed, provisioned⟩
  have own := foldl_renderStep_secret _ ([], []) nofun block present
  refine ⟨block, present, rfl, ?_⟩
  rcases inSlot with current | previous
  · have same : block.secret = secret := by
      rw [provisionedSecret, current] at own
      dsimp only at own
      rw [if_neg nonempty] at own
      exact (Option.some.inj own).symm
    simp [HostBlock.lines, same]
  · simp [HostBlock.lines, previous, nonempty]

/-! ## Runs of rotations -/

/-- The device exists and is provisioned, in tables that meet their constraints. -/
def Provisioned (deviceId : Nat) (tables : DeviceTables) : Prop :=
  tables.Constraints ∧ ∃ row, tables.row deviceId = some row ∧ isProvisioned row = true

/-- A secret is in a slot of the device. -/
def Holds (deviceId : Nat) (secret : String) (tables : DeviceTables) : Prop :=
  ∃ row, tables.row deviceId = some row ∧ InSlot row secret

/-- A request neither retires a secret from the previous slot nor, by a rotation while another
secret is current, pushes it out of there. -/
def KeepsSecret (deviceId : Nat) (secret : String) (tables : DeviceTables)
    (rotation : Rotation) : Prop :=
  ∀ row, tables.row deviceId = some row → row.previousSecretEnc = some secret →
    match rotation with
    | .rotateSecret _ => row.currentSecretEnc = some secret
    | .retirePrevious _ => False

section Steps

variable {printable : Char → Bool} {deviceId : Nat} {tables next : DeviceTables}
  {rotation : Rotation} {secret : String}

/-- A device is provisioned when it has a nonempty secret. -/
theorem isProvisioned_iff {row : Device} :
    isProvisioned row = true ↔ ∃ secret, row.currentSecretEnc = some secret ∧ secret ≠ "" := by
  unfold isProvisioned provisionedSecret
  cases row.currentSecretEnc with
  | none => simp
  | some value => by_cases empty : value = "" <;> simp [empty]

/-- A rotation request on a device that exists succeeds. -/
theorem rotation_succeeds (printable : Char → Bool) (rotation : Rotation)
    (provisioned : Provisioned deviceId tables) :
    ∃ next, rotations printable deviceId tables rotation = some next := by
  obtain ⟨constraints, row, found, -⟩ := provisioned
  have fits : Fits tables deviceId rotation.edit := by
    cases rotation with
    | rotateSecret payload => exact ⟨⟨row, found⟩, nofun, nofun, nofun⟩
    | retirePrevious now => exact ⟨⟨row, found⟩, nofun, nofun, nofun⟩
  exact ⟨_, (alone_eq_some constraints found).mpr ⟨fits, rfl⟩⟩

/-- A rotation request keeps a device provisioned: the new secret is not empty. -/
theorem provisioned_step (provisioned : Provisioned deviceId tables)
    (stepped : rotations printable deviceId tables rotation = some next) :
    Provisioned deviceId next := by
  obtain ⟨constraints, row, found, secretGiven⟩ := provisioned
  refine ⟨alone_constraints constraints found stepped, _, alone_row constraints found stepped, ?_⟩
  cases rotation with
  | rotateSecret payload =>
    refine isProvisioned_iff.mpr ⟨payload.newSecret, rfl, ?_⟩
    intro empty
    have long := payload.newSecretLength.1
    rw [empty] at long
    exact absurd long (by decide)
  | retirePrevious now =>
    obtain ⟨current, same, nonempty⟩ := isProvisioned_iff.mp secretGiven
    exact isProvisioned_iff.mpr ⟨current, same, nonempty⟩

/-- Every run of rotation requests on a device that exists comes to its end. -/
theorem rotations_succeed (printable : Char → Bool) (requests : List Rotation)
    (provisioned : Provisioned deviceId tables) :
    ∃ final, (rotations printable deviceId).run tables requests = some final := by
  induction requests generalizing tables with
  | nil => exact ⟨tables, rfl⟩
  | cons rotation requests ih =>
    obtain ⟨next, stepped⟩ := rotation_succeeds printable rotation provisioned
    obtain ⟨final, ran⟩ := ih (provisioned_step provisioned stepped)
    exact ⟨final, Step.run_cons.mpr ⟨next, stepped, ran⟩⟩

/-- A secret stays in a slot unless a request removes it from the previous one. -/
theorem holds_step (constraints : tables.Constraints) (holds : Holds deviceId secret tables)
    (keeps : KeepsSecret deviceId secret tables rotation)
    (stepped : rotations printable deviceId tables rotation = some next) :
    Holds deviceId secret next := by
  obtain ⟨row, found, inSlot⟩ := holds
  refine ⟨_, alone_row constraints found stepped, ?_⟩
  cases rotation with
  | rotateSecret payload =>
    -- The current secret moves to the previous slot.
    have current : row.currentSecretEnc = some secret := by
      rcases inSlot with current | previous
      · exact current
      · exact keeps row found previous
    exact .inr current
  | retirePrevious now =>
    rcases inSlot with current | previous
    · exact .inl current
    · exact (keeps row found previous).elim

end Steps

/-- After any run of rotations and retirements of a provisioned device, a secret that was current at
some point of the run and has since then neither been retired from the previous slot nor pushed out
of it by a further rotation is a key of the device's block. -/
theorem rotated_secret_isKey (printable : Char → Bool) (deviceId : Nat) (secret : String)
    (tables middle : DeviceTables) (before after : List Rotation)
    (provisioned : Provisioned deviceId tables)
    (ranBefore : (rotations printable deviceId).run tables before = some middle)
    (current : ∃ row, middle.row deviceId = some row ∧ row.currentSecretEnc = some secret)
    (kept : (rotations printable deviceId).Admits (KeepsSecret deviceId secret) middle after) :
    ∃ final, (rotations printable deviceId).run middle after = some final ∧
      IsKey final deviceId secret := by
  have reached : Provisioned deviceId middle :=
    Step.run_invariant (Provisioned deviceId)
      (fun _ _ _ holds stepped => provisioned_step holds stepped) provisioned ranBefore
  have nonempty : secret ≠ "" := by
    obtain ⟨-, row, found, given⟩ := reached
    obtain ⟨other, same, here⟩ := current
    obtain rfl := Option.some.inj (same.symm.trans found)
    obtain ⟨value, equal, notEmpty⟩ := isProvisioned_iff.mp given
    obtain rfl := Option.some.inj (here.symm.trans equal)
    exact notEmpty
  have start : Provisioned deviceId middle ∧ Holds deviceId secret middle := by
    obtain ⟨row, found, here⟩ := current
    exact ⟨reached, row, found, .inl here⟩
  obtain ⟨final, ranAfter⟩ := rotations_succeed printable after reached
  obtain ⟨⟨constraints, row, found, given⟩, other, same, inSlot⟩ :=
    Step.run_preserves (fun tables => Provisioned deviceId tables ∧ Holds deviceId secret tables)
      (fun _ _ _ holds keeps stepped => ⟨provisioned_step holds.1 stepped,
        holds_step holds.1.1 holds.2 keeps stepped⟩) start kept ranAfter
  obtain rfl := Option.some.inj (same.symm.trans found)
  obtain ⟨listed, rfl⟩ := (row_eq_some constraints.toValid).mp found
  exact ⟨final, ranAfter, isKey_of_inSlot listed given nonempty inSlot⟩

/-- The device of `oneSecret` is provisioned. -/
theorem oneSecret_provisioned : Provisioned 1 oneSecret :=
  ⟨oneSecret_constraints, _, rfl, rfl⟩

/-- A rotation to a secret. -/
def rotateTo (secret : String) (given : 1 ≤ secret.length ∧ secret.length ≤ 512) : Rotation :=
  .rotateSecret ⟨secret, given⟩

/-- After one rotation, the original secret is still a key. -/
theorem rotated_secret_isKey_once : ∃ final,
    (rotations (fun _ => true) 1).run oneSecret [rotateTo "s1" (by decide)] = some final ∧
      IsKey final 1 "s0" :=
  rotated_secret_isKey (fun _ => true) 1 "s0" oneSecret oneSecret [] [rotateTo "s1" (by decide)]
    oneSecret_provisioned rfl ⟨_, rfl, rfl⟩
    (.cons (fun _ found previous => by cases found; cases previous) rfl trivial)

/-- A request does not retire a secret from the previous slot. -/
def NotRetired (deviceId : Nat) (secret : String) (tables : DeviceTables)
    (rotation : Rotation) : Prop :=
  ∀ row, tables.row deviceId = some row → row.previousSecretEnc = some secret →
    ∀ now, rotation ≠ .retirePrevious now

/-- A second rotation pushes the original secret out, although nothing retired it. -/
theorem rotatedTwice_not_isKey :
    ¬ ∀ (secret : String) (tables middle final : DeviceTables) (before after : List Rotation),
      Provisioned 1 tables →
      (rotations (fun _ => true) 1).run tables before = some middle →
      (∃ row, middle.row 1 = some row ∧ row.currentSecretEnc = some secret) →
      (rotations (fun _ => true) 1).Admits (NotRetired 1 secret) middle after →
      (rotations (fun _ => true) 1).run middle after = some final →
      IsKey final 1 secret := by
  intro claimed
  have key := claimed "s0" oneSecret oneSecret _ []
    [rotateTo "s1" (by decide), rotateTo "s2" (by decide)] oneSecret_provisioned rfl
    ⟨_, rfl, rfl⟩
    (.cons (fun _ _ _ _ => by simp [rotateTo]) rfl
      (.cons (fun _ _ _ _ => by simp [rotateTo]) rfl trivial)) rfl
  revert key
  decide +kernel

end TacacsWeb.Verif
