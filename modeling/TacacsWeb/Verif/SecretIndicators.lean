import TacacsWeb.Verif.SecretRotation

/-!
# What the secret indicators say

A device is shown with a secret when the column is not null, and rendered when the secret is not
empty. So the indicators describe the rendering as long as no empty secret is stored, and the only
request that stores one is a creation that asks for it.
-/

namespace TacacsWeb.Verif

open TacacsWeb.Library TacacsWeb.Library.Text TacacsWeb.Model

/-! ## The statement -/

/-- A line of a block is a key. -/
def isKeyLine (line : String) : Bool := "    key = \"".toList.isPrefixOf line.toList

/-- A block has a second key line. -/
def HasSecondKey (block : HostBlock) : Prop := 1 < (block.lines.filter isKeyLine).length

instance (block : HostBlock) : Decidable (HasSecondKey block) :=
  inferInstanceAs (Decidable (1 < (block.lines.filter isKeyLine).length))

/-- The indicators of a device describe what is rendered for it. -/
def IndicatesKeys (devices : List Device) (device : Device) : Prop :=
  ((DeviceRead.fromRow device).hasCurrentSecret = true ↔
      ∃ block ∈ hostBlocks devices, block.device = device) ∧
    ∀ block ∈ hostBlocks devices, block.device = device →
      ((DeviceRead.fromRow device).hasPreviousSecret = true ↔ HasSecondKey block)

/-- The indicators of every device do. -/
def SecretsDescribed (tables : DeviceTables) : Prop :=
  ∀ device ∈ tables.devices, IndicatesKeys tables.devices device

/-- A request creates a device with an empty secret. -/
def StoresEmptySecret : DeviceRequest → Prop
  | .create payload => payload.currentSecret = some ""
  | _ => False

instance (request : DeviceRequest) : Decidable (StoresEmptySecret request) := by
  cases request <;> unfold StoresEmptySecret <;> infer_instance

/-! ## The lines of a block -/

/-- A key line is one. -/
theorem isKeyLine_keyLine (secret : String) : isKeyLine (keyLine secret) = true := by
  rw [isKeyLine, List.isPrefixOf_iff_prefix, keyLine, String.append_assoc, String.toList_append]
  exact List.prefix_append _ _

/-- A line that begins otherwise is no line of a key. -/
theorem isKeyLine_append {start rest : String}
    (differs : ("    key = \"".toList.isPrefixOf (start.toList ++ rest.toList)) = false) :
    isKeyLine (start ++ rest) = false := by
  rw [isKeyLine, String.toList_append]
  exact differs

/-- A block has a second key line when its device has a previous secret that is not empty. -/
theorem hasSecondKey_iff (block : HostBlock) :
    HasSecondKey block ↔
      ∃ previous, block.device.previousSecretEnc = some previous ∧ previous ≠ "" := by
  have label : isKeyLine ("host " ++ block.name ++ " \x7b") = false := by
    rw [String.append_assoc]
    exact isKeyLine_append (by simp [List.isPrefixOf])
  have address : isKeyLine ("    address = " ++ block.address) = false :=
    isKeyLine_append (by simp [List.isPrefixOf])
  have backend : isKeyLine "    mavis backend = yes" = false := by decide
  have closing : isKeyLine "\x7d" = false := by decide
  unfold HasSecondKey HostBlock.lines
  cases previous : block.device.previousSecretEnc with
  | none =>
    simp [label, address, backend, closing, isKeyLine_keyLine]
  | some secret =>
    by_cases empty : secret = ""
    · simp [label, address, backend, closing, isKeyLine_keyLine, empty]
    · simp [label, address, backend, closing, isKeyLine_keyLine, empty]

/-- The indicators of a device describe its block exactly when its secret is not empty, and no
empty secret stands behind the one it is rendered with. -/
theorem indicatesKeys_iff {devices : List Device} {device : Device} (listed : device ∈ devices) :
    IndicatesKeys devices device ↔
      device.currentSecretEnc ≠ some "" ∧
        (isProvisioned device = true → device.previousSecretEnc ≠ some "") := by
  have rendered : (∃ block ∈ hostBlocks devices, block.device = device) ↔
      isProvisioned device = true := by
    rw [mem_hostBlocks_device, and_iff_right listed]
  have current : ((DeviceRead.fromRow device).hasCurrentSecret = true ↔
      isProvisioned device = true) ↔ device.currentSecretEnc ≠ some "" := by
    rw [isProvisioned_iff]
    cases secret : device.currentSecretEnc with
    | none => simp [DeviceRead.fromRow, secret]
    | some value => simp [DeviceRead.fromRow, secret]
  have second : ((DeviceRead.fromRow device).hasPreviousSecret = true ↔
      ∃ previous, device.previousSecretEnc = some previous ∧ previous ≠ "") ↔
        device.previousSecretEnc ≠ some "" := by
    cases secret : device.previousSecretEnc with
    | none => simp [DeviceRead.fromRow, secret]
    | some value => simp [DeviceRead.fromRow, secret]
  unfold IndicatesKeys
  rw [rendered, current]
  refine and_congr_right fun _ => ?_
  constructor
  · intro keys provisioned
    obtain ⟨block, present, own⟩ := rendered.mpr provisioned
    have described := keys block present own
    rw [hasSecondKey_iff, own] at described
    exact second.mp described
  · intro nonempty block present own
    have provisioned := rendered.mp ⟨block, present, own⟩
    rw [hasSecondKey_iff, own]
    exact second.mpr (nonempty provisioned)

/-! ## Runs of requests -/

/-- Neither secret of a device is stored as the empty text. -/
def SecretsGiven (device : Device) : Prop :=
  device.currentSecretEnc ≠ some "" ∧ device.previousSecretEnc ≠ some ""

/-- No device has an empty secret. -/
def NoEmptySecret (tables : DeviceTables) : Prop := ∀ device ∈ tables.devices, SecretsGiven device

/-- Without empty secrets the indicators are right. -/
theorem NoEmptySecret.described {tables : DeviceTables} (clean : NoEmptySecret tables) :
    SecretsDescribed tables := by
  intro device listed
  have given := clean device listed
  exact (indicatesKeys_iff listed).mpr ⟨given.1, fun _ => given.2⟩

section Runs

variable {printable : Char → Bool} {tables next : DeviceTables} {request : DeviceRequest}

/-- A request is prepared, and what it prepares is committed. -/
theorem deviceRequests_eq_some :
    deviceRequests printable tables request = some next ↔
      ∃ change rowId, prepare printable tables request = .ok change ∧
        commit tables change.write = .ok (next, rowId) := by
  unfold deviceRequests
  rw [Option.map_eq_some_iff]
  constructor
  · intro stepped
    obtain ⟨⟨reached, rowId⟩, committed, same⟩ := stepped
    obtain ⟨change, prepared, written⟩ := Option.bind_eq_some_iff.mp committed
    refine ⟨change, rowId, toOption_eq_some.mp prepared, ?_⟩
    rw [← same]
    exact toOption_eq_some.mp written
  · intro stepped
    obtain ⟨change, rowId, prepared, committed⟩ := stepped
    exact ⟨(next, rowId), Option.bind_eq_some_iff.mpr
      ⟨change, toOption_eq_some.mpr prepared, toOption_eq_some.mpr committed⟩, rfl⟩

/-- A creation adds a device with the secret of the request and no other. -/
theorem create_devices {payload : DeviceCreate}
    (stepped : deviceRequests printable tables (.create payload) = some next) :
    ∃ created, next.devices = tables.devices ++ [created] ∧
      created.currentSecretEnc = payload.currentSecret ∧ created.previousSecretEnc = none := by
  obtain ⟨change, rowId, prepared, committed⟩ := deviceRequests_eq_some.mp stepped
  obtain ⟨group, -, same⟩ := map_eq_ok.mp prepared
  rw [← same] at committed
  simp only [commit] at committed
  split at committed
  · cases committed
  · cases committed
    exact ⟨_, rfl, rfl, rfl⟩

/-- An edit stores no empty secret: a PATCH leaves an empty one out, and a rotation has none. -/
theorem secretsGiven_edited {row : Device} (edit : DeviceEdit) (given : SecretsGiven row) :
    SecretsGiven (edited edit row) := by
  cases edit with
  | update payload =>
    refine ⟨?_, given.2⟩
    intro empty
    rcases Option.or_eq_some_iff.mp empty with asked | kept
    · have nonempty := (Option.filter_eq_some_iff.mp asked).2
      simp at nonempty
    · exact given.1 kept.2
  | rotateSecret payload =>
    refine ⟨?_, given.1⟩
    intro empty
    have long := payload.newSecretLength.1
    rw [Option.some.inj empty] at long
    exact absurd long (by decide)
  | retirePrevious now => exact ⟨given.1, nofun⟩

/-- The columns that an edit writes have no empty secret, on whatever row they are written. -/
theorem secretsGiven_apply {row device : Device} (edit : DeviceEdit) (given : SecretsGiven row)
    (own : SecretsGiven device) : SecretsGiven ((writtenColumns edit row).apply device) := by
  have column (loaded value kept : Option String) (fine : value ≠ some "") (old : kept ≠ some "") :
      (changedTo loaded value).getD kept ≠ some "" := by
    cases written : changedTo loaded value with
    | none => exact old
    | some other =>
      rw [Option.getD_some, ← (changedTo_eq_some.mp written).2]
      exact fine
  have after := secretsGiven_edited edit given
  exact ⟨column _ _ _ after.1 own.1, column _ _ _ after.2 own.2⟩

/-- An edit leaves no empty secret behind. -/
theorem noEmptySecret_edit (deviceId : Nat) (edit : DeviceEdit) (clean : NoEmptySecret tables)
    (stepped : deviceRequests printable tables (edit.request deviceId) = some next) :
    NoEmptySecret next := by
  obtain ⟨change, rowId, prepared, committed⟩ := deviceRequests_eq_some.mp stepped
  obtain ⟨row, found, -, written⟩ := prepare_edit_iff.mp ⟨change, prepared, rfl⟩
  rw [written, row_id found] at committed
  have same := ((commit_update_iff found).mp committed).2.1
  have given := clean row (List.mem_of_find?_eq_some found)
  intro device listed
  rw [same] at listed
  obtain ⟨before, present, becomes⟩ := List.mem_map.mp listed
  rw [← becomes]
  split
  · exact secretsGiven_apply edit given (clean before present)
  · exact clean before present

/-- A request that does not ask for an empty secret leaves none behind. -/
theorem noEmptySecret_step (clean : NoEmptySecret tables) (fine : ¬StoresEmptySecret request)
    (stepped : deviceRequests printable tables request = some next) : NoEmptySecret next := by
  cases request with
  | create payload =>
    obtain ⟨created, devices, current, previous⟩ := create_devices stepped
    intro device listed
    rw [devices] at listed
    rcases List.mem_append.mp listed with present | new
    · exact clean device present
    · rw [List.mem_singleton.mp new, SecretsGiven, current, previous]
      exact ⟨fine, nofun⟩
  | update deviceId payload =>
    exact noEmptySecret_edit deviceId (.update payload) clean stepped
  | rotateSecret deviceId payload =>
    exact noEmptySecret_edit deviceId (.rotateSecret payload) clean stepped
  | retirePrevious deviceId now =>
    exact noEmptySecret_edit deviceId (.retirePrevious now) clean stepped
  | delete deviceId =>
    obtain ⟨change, rowId, prepared, committed⟩ := deviceRequests_eq_some.mp stepped
    obtain ⟨row, -, same⟩ := map_eq_ok.mp prepared
    rw [← same] at committed
    cases committed
    intro device listed
    exact clean device (List.mem_filter.mp listed).1

/-- After a creation with an empty secret an indicator is wrong. -/
theorem not_described_create (stores : StoresEmptySecret request)
    (stepped : deviceRequests printable tables request = some next) : ¬SecretsDescribed next := by
  intro described
  cases request with
  | create payload =>
    obtain ⟨created, devices, current, -⟩ := create_devices stepped
    have listed : created ∈ next.devices := by
      rw [devices]
      exact List.mem_append_right _ (List.mem_singleton_self created)
    have fine := (indicatesKeys_iff listed).mp (described created listed)
    exact fine.1 (current.trans stores)
  | update deviceId payload => exact stores
  | rotateSecret deviceId payload => exact stores
  | retirePrevious deviceId now => exact stores
  | delete deviceId => exact stores

/-- The indicators describe what the daemon gets in all states of a run exactly when no request of
it creates a device with an empty secret. -/
theorem secretsDescribed_iff {start final : DeviceTables} {requests : List DeviceRequest}
    (clean : NoEmptySecret start)
    (ran : (deviceRequests printable).run start requests = some final) :
    (∀ done rest reached, requests = done ++ rest →
        (deviceRequests printable).run start done = some reached → SecretsDescribed reached) ↔
      ∀ request ∈ requests, ¬StoresEmptySecret request := by
  constructor
  · intro described request listed stores
    obtain ⟨done, rest, split⟩ := List.append_of_mem listed
    rw [split] at ran
    obtain ⟨middle, first, later⟩ := Step.run_append.mp ran
    obtain ⟨next, stepped, -⟩ := Step.run_cons.mp later
    have reached : (deviceRequests printable).run start (done ++ [request]) = some next :=
      Step.run_append.mpr ⟨middle, first, Step.run_cons.mpr ⟨next, stepped, rfl⟩⟩
    have state := described (done ++ [request]) rest next (by simp [split]) reached
    exact not_described_create stores stepped state
  · intro fine done rest reached split prefixRan
    have every : (deviceRequests printable).Admits (fun _ _ => True) start done :=
      Step.admits_of_forall (fun _ _ => trivial) start done
    have fits : ∀ request ∈ done, ¬StoresEmptySecret request := by
      intro request listed
      apply fine
      rw [split]
      exact List.mem_append_left _ listed
    have kept := Step.run_preserves NoEmptySecret
      (fun tables request next before given stepped => noEmptySecret_step before given.2 stepped)
      clean (every.and fits) prefixRan
    exact kept.described

end Runs

/-- One group and no device. -/
def noDevices : DeviceTables := ⟨[⟨1, "core", none⟩], [], 1⟩

/-- There is no empty secret among no devices. -/
theorem noDevices_noEmptySecret : NoEmptySecret noDevices := nofun

/-- A missing description is short enough. -/
theorem noDescription_length : ∀ value ∈ (none : Option String), value.length ≤ 2048 := by
  intro value listed
  cases listed

/-- A given secret is short enough when it is. -/
theorem givenSecret_length {secret : String} (short : secret.length ≤ 512) :
    ∀ value ∈ some secret, value.length ≤ 512 := by
  intro value listed
  rw [← Option.some.inj listed]
  exact short

/-- A name of two letters is one. -/
theorem switchName_length : 1 ≤ "sw".length ∧ "sw".length ≤ 128 := by decide

/-- An address is short enough. -/
theorem switchAddress_length : 1 ≤ "10.0.0.1".length ∧ "10.0.0.1".length ≤ 64 := by decide

/-- An address is valid. -/
theorem switchAddress_valid : (IpAddress.ipNetwork "10.0.0.1".toList).isSome = true := by decide

/-- A creation with a secret. -/
def createWith (secret : String) (short : secret.length ≤ 512) : DeviceRequest :=
  .create ⟨"sw", "10.0.0.1", 1, some secret, none, switchName_length, switchAddress_length,
    switchAddress_valid, givenSecret_length short, noDescription_length⟩

/-- A device after its secret was rotated. -/
def rotatedOnce : DeviceTables :=
  ⟨[⟨1, "core", none⟩], [⟨1, "sw", "10.0.0.1", 1, some "s1", some "s0", none, none⟩], 2⟩

/-- A device is created and its secret rotated, and its indicators are right. -/
theorem secretsDescribed_rotatedOnce : SecretsDescribed rotatedOnce := by
  have ran : (deviceRequests fun _ => true).run noDevices
      [createWith "s0" (by decide), .rotateSecret 1 ⟨"s1", by decide⟩] = some rotatedOnce := by
    decide +kernel
  have fine : ∀ request ∈ [createWith "s0" (by decide), .rotateSecret 1 ⟨"s1", by decide⟩],
      ¬StoresEmptySecret request := by
    decide
  have described := (secretsDescribed_iff noDevices_noEmptySecret ran).mpr fine
  exact described _ [] rotatedOnce (List.append_nil _).symm ran

/-- A device with an empty secret. -/
def emptySecret : DeviceTables :=
  ⟨[⟨1, "core", none⟩], [⟨1, "sw", "10.0.0.1", 1, some "", none, none, none⟩], 2⟩

/-- A device that is created with an empty secret is shown with a secret and has no block. -/
theorem emptySecret_not_described :
    ¬ ∀ (printable : Char → Bool) (groups : List DeviceGroup) (requests : List DeviceRequest)
        (final : DeviceTables),
      (deviceRequests printable).run ⟨groups, [], 1⟩ requests = some final →
        SecretsDescribed final := by
  intro claimed
  have ran : (deviceRequests fun _ => true).run noDevices [createWith "" (by decide)] =
      some emptySecret := by
    decide +kernel
  have described := claimed _ _ _ _ ran
  have fine := (indicatesKeys_iff List.mem_cons_self).mp (described _ List.mem_cons_self)
  exact fine.1 rfl

end TacacsWeb.Verif
