import TacacsWeb.Model.NasConfigRuns

/-!
# The file after all requests have finished

Nothing orders the writes of concurrent requests, so one that read the table early may
write last. As long as no write replaces the rendering of a later state of the table, some
request under way always covers the current state until the file does, and the file is the
rendering of the table once every request has finished.
-/

namespace TacacsWeb.Verif

open TacacsWeb.Library TacacsWeb.Model

/-- A write does not replace the rendering of a later state of the table. -/
def NoStaleWrite (state : HostsSystem) : HostsLabel → Prop
  | .write index => ∀ content version,
      state.requests[index]? = some (.rendered content version) → state.fileVersion ≤ version
  | _ => True

/-- A content read from a version is the rendering of the table while that is the version. -/
def Reflects (sharedSecret : String) (state : HostsSystem) (content : String) (version : Nat) :
    Prop :=
  version ≤ state.version ∧
    (version = state.version → content = hostsContent sharedSecret state.tables.devices)

/-- A request that is going to write the rendering of the current table. -/
def Covers (state : HostsSystem) (phase : RegenPhase) : Prop :=
  (∃ refresh, phase = .regenerating refresh ∧ state.refreshable refresh = true) ∨
    ∃ content, phase = .rendered content state.version

/-- What every run without stale writes keeps. -/
structure HostsInvariant (sharedSecret : String) (state : HostsSystem) : Prop where
  /-- The tables are valid. -/
  valid : state.tables.Valid
  /-- The file reflects its version. -/
  file : Reflects sharedSecret state state.file state.fileVersion
  /-- Every rendering under way reflects its version. -/
  rendered : ∀ content version, .rendered content version ∈ state.requests →
    Reflects sharedSecret state content version
  /-- The current table is in the file, or some request is going to write it. -/
  covered : state.fileVersion = state.version ∨ ∃ phase ∈ state.requests, Covers state phase

/-! ## Moving one request on -/

/-- The phases after a request has moved on are the new one and some of the old ones. -/
theorem mem_setPhase {state : HostsSystem} {index : Nat} {phase other : RegenPhase}
    (listed : other ∈ (state.setPhase index phase).requests) :
    other = phase ∨ other ∈ state.requests :=
  (List.mem_or_eq_of_mem_set listed).symm

/-- A phase other than the one moved on is kept. -/
theorem mem_setPhase_of_ne {state : HostsSystem} {index : Nat} {old phase other : RegenPhase}
    (found : state.requests[index]? = some old) (listed : other ∈ state.requests)
    (different : other ≠ old) : other ∈ (state.setPhase index phase).requests := by
  obtain ⟨place, inRange, rfl⟩ := List.getElem_of_mem listed
  have apart : index ≠ place := by
    rintro rfl
    rw [List.getElem?_eq_getElem inRange] at found
    exact different (Option.some.inj found)
  refine List.mem_iff_getElem.mpr ⟨place, by simpa [HostsSystem.setPhase] using inRange, ?_⟩
  simp [HostsSystem.setPhase, List.getElem_set_of_ne apart]

/-- The phase moved on is listed. -/
theorem mem_setPhase_self {state : HostsSystem} {index : Nat} {old phase : RegenPhase}
    (found : state.requests[index]? = some old) :
    phase ∈ (state.setPhase index phase).requests := by
  obtain ⟨inRange, -⟩ := List.getElem?_eq_some_iff.mp found
  exact List.mem_set inRange phase

variable {sharedSecret : String} {printable : Char → Bool}

/-- Moving on a request that covers nothing, to a phase that renders nothing, keeps the
invariant. -/
theorem invariant_setPhase {state : HostsSystem} {index : Nat} {old phase : RegenPhase}
    (kept : HostsInvariant sharedSecret state) (found : state.requests[index]? = some old)
    (uncovered : ¬ Covers state old)
    (reflects : ∀ content version, phase = .rendered content version →
      Reflects sharedSecret state content version) :
    HostsInvariant sharedSecret (state.setPhase index phase) where
  valid := kept.valid
  file := kept.file
  rendered content version listed := by
    rcases mem_setPhase listed with same | before
    · exact reflects content version same.symm
    · exact kept.rendered content version before
  covered := by
    rcases kept.covered with current | ⟨other, listed, covers⟩
    · exact .inl current
    · refine .inr ⟨other, mem_setPhase_of_ne found listed ?_, covers⟩
      rintro rfl
      exact uncovered covers

/-- A phase that covers nothing whatever the tables are. -/
theorem not_covers_arrived {state : HostsSystem} (request : RegenRequest) :
    ¬ Covers state (.arrived request) := by
  rintro (⟨refresh, same, -⟩ | ⟨content, same⟩) <;> cases same

/-- A phase that covers nothing whatever the tables are. -/
theorem not_covers_prepared {state : HostsSystem} (change : PreparedChange) :
    ¬ Covers state (.prepared change) := by
  rintro (⟨refresh, same, -⟩ | ⟨content, same⟩) <;> cases same

/-! ## The steps -/

/-- The arrival of a request keeps the invariant. -/
theorem invariant_arrive {state : HostsSystem} (kept : HostsInvariant sharedSecret state)
    (request : RegenRequest) :
    HostsInvariant sharedSecret
      { state with requests := state.requests ++ [.arrived request] } where
  valid := kept.valid
  file := kept.file
  rendered content version listed := by
    rcases List.mem_append.mp listed with before | last
    · exact kept.rendered content version before
    · cases List.mem_singleton.mp last
  covered := by
    rcases kept.covered with current | ⟨other, listed, covers⟩
    · exact .inl current
    · exact .inr ⟨other, List.mem_append_left _ listed, covers⟩

/-- A content that reflects its version still does after a commit. -/
theorem reflects_commit {state : HostsSystem} {tables : DeviceTables} {requests : List RegenPhase}
    {content : String} {version : Nat} (before : Reflects sharedSecret state content version) :
    Reflects sharedSecret
      { state with
        requests := requests
        tables := tables
        version := if tables.devices = state.tables.devices then state.version
          else state.version + 1 } content version := by
  unfold Reflects
  simp only
  split
  · rename_i same
    rw [same]
    exact before
  · refine ⟨Nat.le_succ_of_le before.1, fun current => ?_⟩
    have bound := before.1
    omega

/-- A commit keeps the invariant: a request that has changed the table covers it. -/
theorem invariant_commit {state : HostsSystem} {index : Nat} {change : PreparedChange}
    {tables : DeviceTables} {rowId : Nat} (kept : HostsInvariant sharedSecret state)
    (found : state.requests[index]? = some (.prepared change))
    (committed : commit state.tables change.write = .ok (tables, rowId)) :
    HostsInvariant sharedSecret
      { state.setPhase index (.regenerating (change.write.refreshed rowId)) with
        tables := tables
        version := if tables.devices = state.tables.devices then state.version
          else state.version + 1 } where
  valid := commit_valid kept.valid committed
  file := reflects_commit kept.file
  rendered content version listed := by
    rcases mem_setPhase listed with same | before
    · cases same
    · exact reflects_commit (kept.rendered content version before)
  covered := by
    by_cases same : tables.devices = state.tables.devices
    · simp only [same, ↓reduceIte]
      rcases kept.covered with current | ⟨other, listed, covers⟩
      · exact .inl current
      · refine .inr ⟨other, mem_setPhase_of_ne found listed ?_, ?_⟩
        · rintro rfl
          exact not_covers_prepared change covers
        · simpa [Covers, HostsSystem.refreshable, HostsSystem.setPhase, same] using covers
    · refine .inr ⟨_, mem_setPhase_self found, .inl ⟨_, rfl, ?_⟩⟩
      have reloaded := commit_refreshed committed same
      simp only [HostsSystem.refreshable]
      cases refresh : change.write.refreshed rowId with
      | none => rfl
      | some id =>
        obtain ⟨device, listed, named⟩ := reloaded id refresh
        simpa using ⟨device, listed, named⟩

/-- Reading the table keeps the invariant: the rendering covers it. -/
theorem invariant_read {state : HostsSystem} {index : Nat} {refresh : Option Nat}
    (kept : HostsInvariant sharedSecret state)
    (found : state.requests[index]? = some (.regenerating refresh)) (order : RowOrder Device) :
    HostsInvariant sharedSecret (state.setPhase index
      (.rendered (hostsContent sharedSecret (order.rows state.tables.devices)) state.version)) where
  valid := kept.valid
  file := kept.file
  rendered content version listed := by
    rcases mem_setPhase listed with same | before
    · cases same
      have current := hostsContent_perm sharedSecret kept.valid.deviceId
        (order.perm state.tables.devices)
      exact ⟨le_refl _, fun _ => current⟩
    · exact kept.rendered content version before
  covered := .inr ⟨_, mem_setPhase_self found, .inr ⟨_, rfl⟩⟩

/-- A write that is not stale keeps the invariant. -/
theorem invariant_write {state : HostsSystem} {index : Nat} {content : String} {version : Nat}
    (kept : HostsInvariant sharedSecret state)
    (found : state.requests[index]? = some (.rendered content version))
    (fresh : state.fileVersion ≤ version) :
    HostsInvariant sharedSecret
      { state.setPhase index .finished with file := content, fileVersion := version } where
  valid := kept.valid
  file := kept.rendered content version (List.mem_of_getElem? found)
  rendered other number listed := by
    rcases mem_setPhase listed with same | before
    · cases same
    · exact kept.rendered other number before
  covered := by
    by_cases current : version = state.version
    · exact .inl current
    · have bound := (kept.rendered content version (List.mem_of_getElem? found)).1
      rcases kept.covered with inFile | ⟨other, listed, covers⟩
      · exact absurd (le_antisymm bound (inFile ▸ fresh)) current
      · refine .inr ⟨other, mem_setPhase_of_ne found listed ?_, covers⟩
        rintro rfl
        rcases covers with ⟨refresh, same, -⟩ | ⟨shown, same⟩
        · cases same
        · cases same
          exact current rfl

/-- Every step that writes nothing stale keeps the invariant. -/
theorem invariant_step {state next : HostsSystem} {label : HostsLabel}
    (kept : HostsInvariant sharedSecret state) (guarded : NoStaleWrite state label)
    (stepped : HostsSystem.step sharedSecret printable state label = some next) :
    HostsInvariant sharedSecret next := by
  cases label with
  | arrive request =>
    cases stepped
    exact invariant_arrive kept request
  | prepare index =>
    simp only [HostsSystem.step] at stepped
    split at stepped
    · rename_i request found
      split at stepped
      · cases stepped
        exact invariant_setPhase kept found (not_covers_arrived _) fun _ _ same => nomatch same
      · cases stepped
        exact invariant_setPhase kept found (not_covers_arrived _) fun _ _ same => nomatch same
    · rename_i isAdmin found
      cases stepped
      refine invariant_setPhase kept found (not_covers_arrived _) fun content version same => ?_
      cases isAdmin <;> cases same
    · cases stepped
  | commit index =>
    simp only [HostsSystem.step] at stepped
    split at stepped
    · rename_i change found
      split at stepped
      · cases stepped
        exact invariant_setPhase kept found (not_covers_prepared _) fun _ _ same => nomatch same
      · rename_i tables rowId committed
        cases stepped
        exact invariant_commit kept found committed
    · cases stepped
  | read index order =>
    simp only [HostsSystem.step] at stepped
    split at stepped
    · rename_i refresh found
      split at stepped
      · cases stepped
        exact invariant_read kept found order
      · rename_i gone
        cases stepped
        refine invariant_setPhase kept found ?_ fun _ _ same => nomatch same
        rintro (⟨reloaded, same, present⟩ | ⟨content, same⟩)
        · cases same
          exact gone present
        · cases same
    · cases stepped
  | write index =>
    simp only [HostsSystem.step] at stepped
    split at stepped
    · rename_i content version found
      cases stepped
      exact invariant_write kept found (guarded content version found)
    · cases stepped

/-- In every run from a state in sync in which no write is stale, the file is the rendering of
the table once all requests have finished. -/
theorem hostsFile_current {start final : HostsSystem} {labels : List HostsLabel}
    (valid : start.tables.Valid) (idle : start.requests = []) (synced : start.InSync sharedSecret)
    (current : start.fileVersion = start.version)
    (fresh : (HostsSystem.step sharedSecret printable).Admits NoStaleWrite start labels)
    (ran : (HostsSystem.step sharedSecret printable).run start labels = some final)
    (finished : final.AllFinished) : final.InSync sharedSecret := by
  have initial : HostsInvariant sharedSecret start :=
    ⟨valid, ⟨current.le, fun _ => synced⟩, by simp [idle], .inl current⟩
  have kept : HostsInvariant sharedSecret final :=
    Step.run_preserves _ (fun _ _ _ before guarded stepped => invariant_step before guarded stepped)
      initial fresh ran
  rcases kept.covered with inFile | ⟨phase, listed, covers⟩
  · exact kept.file.2 inFile
  · obtain rfl := finished phase listed
    rcases covers with ⟨refresh, same, -⟩ | ⟨content, same⟩ <;> cases same

/-- One provisioned device, rendered, and no request. -/
def oneDevice : HostsSystem where
  tables := ⟨[⟨1, "core", none⟩], [⟨1, "sw", "10.0.0.1", 1, some "k1", none, none, none⟩], 2⟩
  version := 0
  file := hostsContent "boot" [⟨1, "sw", "10.0.0.1", 1, some "k1", none, none, none⟩]
  fileVersion := 0
  requests := []

/-- A rotation of the device's secret. -/
def rotateOne : RegenRequest := .change (.rotateSecret 1 ⟨"k2", by decide⟩)

/-- The system after the rotation. -/
def rotatedDevice : HostsSystem where
  tables := ⟨[⟨1, "core", none⟩],
    [⟨1, "sw", "10.0.0.1", 1, some "k2", some "k1", none, none⟩], 2⟩
  version := 1
  file := hostsContent "boot" [⟨1, "sw", "10.0.0.1", 1, some "k2", some "k1", none, none⟩]
  fileVersion := 1
  requests := [.finished]

/-- The rendering after one rotation is the one of the rotated device. -/
theorem hostsFile_current_rotated : rotatedDevice.InSync "boot" :=
  @hostsFile_current "boot" (fun _ => true) oneDevice rotatedDevice
    [.arrive rotateOne, .prepare 0, .commit 0, .read 0 (.asStored _), .write 0]
    ⟨by decide, by decide⟩ rfl rfl rfl
    (.cons trivial rfl (.cons trivial rfl (.cons trivial rfl (.cons trivial rfl
      (.cons (fun _ _ _ => Nat.zero_le _) rfl trivial)))))
    (by decide +kernel) (by simp [HostsSystem.AllFinished, rotatedDevice])

/-- A rotation that reads the table, a deletion that runs to its end, and the rotation's write
last. -/
def staleRun : List HostsLabel :=
  [.arrive rotateOne, .arrive (.change (.delete 1)), .prepare 0, .commit 0, .read 0 (.asStored _),
    .prepare 1, .commit 1, .read 1 (.asStored _), .write 1, .write 0]

/-- The deleted device and its secrets stay in the file when the earlier reading is written
last. -/
theorem staleRun_not_inSync :
    ¬ ∀ (labels : List HostsLabel) (final : HostsSystem),
      (HostsSystem.step "boot" fun _ => true).run oneDevice labels = some final →
        final.AllFinished → final.InSync "boot" := by
  intro claimed
  have synced := claimed staleRun
    { tables := ⟨[⟨1, "core", none⟩], [], 2⟩
      version := 2
      file := hostsContent "boot" [⟨1, "sw", "10.0.0.1", 1, some "k2", some "k1", none, none⟩]
      fileVersion := 1
      requests := [.finished, .finished] } (by decide +kernel) (by simp [HostsSystem.AllFinished])
  revert synced
  unfold HostsSystem.InSync
  decide

end TacacsWeb.Verif
