import TacacsWeb.Model.ReloadLoop

/-!
# Reloads of the daemon

The loop misses a rewrite that ends between its signal and the next start of `inotifywait`,
and the daemon reads half a rewrite when the signal falls into it. Without these two the
daemon only ever loads complete contents, and it has loaded the file whenever the loop
watches, no event is waiting and no rewrite is in progress.
-/

namespace TacacsWeb.Verif

open TacacsWeb.Library TacacsWeb.Model

/-- The content the run started with, or the rendering of some rows. -/
def IsComplete (sharedSecret initial content : String) : Prop :=
  content = initial ∨ ∃ devices, content = hostsContent sharedSecret devices

/-- No signal falls between truncating and writing the file, and no rewrite ends between the
signal and the next watch unless the daemon has already loaded its content. -/
def Undisturbed (state : ReloadSystem) : ReloadLabel → Prop
  | .signal => ∀ content, state.writer ≠ .truncated content
  | .close => state.loop = .gap → state.loaded = state.file
  | _ => True

/-- What every undisturbed run keeps. -/
structure ReloadInvariant (sharedSecret initial : String) (state : ReloadSystem) : Prop where
  /-- Every content loaded is complete. -/
  loads : ∀ content ∈ state.loaded :: state.earlier, IsComplete sharedSecret initial content
  /-- The file is complete unless it is truncated. -/
  file : (∀ content, state.writer ≠ .truncated content) →
    IsComplete sharedSecret initial state.file
  /-- What is to be written is a rendering. -/
  writing : ∀ content, state.writer = .truncated content →
    IsComplete sharedSecret initial content
  /-- Without a rewrite or an event to see, the daemon has loaded the file. -/
  settled : state.writer = .idle → state.loop = .gap ∨ state.loop = .armed 0 →
    state.loaded = state.file

variable {sharedSecret initial : String}

/-- An event that is seen leaves the loop with something to do. -/
theorem raiseEvent_settled {phase : LoopPhase}
    (quiet : ReloadSystem.raiseEvent phase = .gap ∨ ReloadSystem.raiseEvent phase = .armed 0) :
    phase = .gap := by
  cases phase with
  | armed pending => rcases quiet with same | same <;> cases same
  | awake => rcases quiet with same | same <;> cases same
  | gap => rfl

/-- The backend's steps keep the invariant when no rewrite ends unseen. -/
theorem reloadInvariant_writer {state next : ReloadSystem} {label : ReloadLabel}
    (kept : ReloadInvariant sharedSecret initial state) (guarded : Undisturbed state label)
    (backend : (∃ devices, label = .truncate devices) ∨ label = .write ∨ label = .close)
    (stepped : ReloadSystem.step sharedSecret state label = some next) :
    ReloadInvariant sharedSecret initial next := by
  rcases backend with ⟨devices, rfl⟩ | rfl | rfl
  · simp only [ReloadSystem.step] at stepped
    split at stepped
    · cases stepped
      exact {
        loads := kept.loads
        file := fun writable => absurd rfl (writable (hostsContent sharedSecret devices))
        writing := fun content same => by
          cases same
          exact .inr ⟨devices, rfl⟩
        settled := fun idle => nomatch idle }
    · cases stepped
  · simp only [ReloadSystem.step] at stepped
    split at stepped
    · rename_i content truncated
      cases stepped
      exact {
        loads := kept.loads
        file := fun _ => kept.writing content truncated
        writing := fun _ same => nomatch same
        settled := fun idle => nomatch idle }
    · cases stepped
  · simp only [ReloadSystem.step] at stepped
    split at stepped
    · rename_i written
      cases stepped
      exact {
        loads := kept.loads
        file := fun _ => kept.file (by simp [written])
        writing := fun _ same => nomatch same
        settled := fun _ quiet => guarded (raiseEvent_settled quiet) }
    · cases stepped

/-- The loop's steps keep the invariant when no signal falls into a truncated file. -/
theorem reloadInvariant_loop {state next : ReloadSystem} {label : ReloadLabel}
    (kept : ReloadInvariant sharedSecret initial state) (guarded : Undisturbed state label)
    (watcher : label = .wake ∨ label = .signal ∨ label = .arm)
    (stepped : ReloadSystem.step sharedSecret state label = some next) :
    ReloadInvariant sharedSecret initial next := by
  rcases watcher with rfl | rfl | rfl
  · simp only [ReloadSystem.step] at stepped
    split at stepped
    · cases stepped
      exact {
        loads := kept.loads
        file := kept.file
        writing := kept.writing
        settled := fun _ quiet => by rcases quiet with same | same <;> cases same }
    · cases stepped
  · simp only [ReloadSystem.step] at stepped
    split at stepped
    · cases stepped
      exact {
        loads := fun content listed => by
          rcases List.mem_cons.mp listed with rfl | before
          · exact kept.file guarded
          · exact kept.loads content before
        file := kept.file
        writing := kept.writing
        settled := fun _ _ => rfl }
    · cases stepped
  · simp only [ReloadSystem.step] at stepped
    split at stepped
    · rename_i gap
      cases stepped
      exact {
        loads := kept.loads
        file := kept.file
        writing := kept.writing
        settled := fun idle _ => kept.settled idle (.inl gap) }
    · cases stepped

/-- Every undisturbed step keeps the invariant. -/
theorem reloadInvariant_step {state next : ReloadSystem} {label : ReloadLabel}
    (kept : ReloadInvariant sharedSecret initial state) (guarded : Undisturbed state label)
    (stepped : ReloadSystem.step sharedSecret state label = some next) :
    ReloadInvariant sharedSecret initial next := by
  cases label with
  | truncate devices => exact reloadInvariant_writer kept guarded (.inl ⟨devices, rfl⟩) stepped
  | write => exact reloadInvariant_writer kept guarded (.inr (.inl rfl)) stepped
  | close => exact reloadInvariant_writer kept guarded (.inr (.inr rfl)) stepped
  | wake => exact reloadInvariant_loop kept guarded (.inl rfl) stepped
  | signal => exact reloadInvariant_loop kept guarded (.inr (.inl rfl)) stepped
  | arm => exact reloadInvariant_loop kept guarded (.inr (.inr rfl)) stepped

/-- The daemon has been started on the file and the loop is about to watch. -/
def Started (state : ReloadSystem) : Prop :=
  state.writer = .idle ∧ state.loop = .gap ∧ state.loaded = state.file ∧ state.earlier = []

/-- In every undisturbed run every content that the daemon loads is complete, and it has
loaded the file whenever the loop watches without a waiting event or a rewrite in progress. -/
theorem reload_current {start final : ReloadSystem} {labels : List ReloadLabel}
    (started : Started start)
    (undisturbed : (ReloadSystem.step sharedSecret).Admits Undisturbed start labels)
    (ran : (ReloadSystem.step sharedSecret).run start labels = some final) :
    (∀ content ∈ final.loaded :: final.earlier, IsComplete sharedSecret start.file content) ∧
      (final.loop = .armed 0 → final.writer = .idle → final.loaded = final.file) := by
  obtain ⟨idle, -, loaded, earlier⟩ := started
  have initial : ReloadInvariant sharedSecret start.file start := {
    loads := by simp [earlier, loaded, IsComplete]
    file := fun _ => .inl rfl
    writing := fun content truncated => by
      rw [idle] at truncated
      cases truncated
    settled := fun _ _ => loaded }
  have kept : ReloadInvariant sharedSecret start.file final :=
    Step.run_preserves _ (fun _ _ _ before guarded stepped =>
      reloadInvariant_step before guarded stepped) initial undisturbed ran
  exact ⟨kept.loads, fun armed quiet => kept.settled quiet (.inr armed)⟩

/-- A provisioned device with the given secret. -/
def deviceWith (secret : String) : Device :=
  ⟨1, "sw", "10.0.0.1", 1, some secret, none, none, none⟩

/-- The daemon on the bootstrap file. -/
def bootstrapped : ReloadSystem :=
  ⟨true, fallbackBlock "boot", .idle, .gap, fallbackBlock "boot", []⟩

/-- The steps of one rewrite of the file. -/
def rewriteWith (secret : String) : List ReloadLabel :=
  [.truncate [deviceWith secret], .write, .close]

/-- The state after one rewrite that the loop has seen. -/
def reloaded : ReloadSystem :=
  ⟨true, hostsContent "boot" [deviceWith "k1"], .idle, .armed 0,
    hostsContent "boot" [deviceWith "k1"], [fallbackBlock "boot"]⟩

/-- A rewrite that ends while the loop watches is loaded. -/
theorem reload_current_watched :
    (∀ content ∈ reloaded.loaded :: reloaded.earlier,
      IsComplete "boot" bootstrapped.file content) ∧
      (reloaded.loop = .armed 0 → reloaded.writer = .idle → reloaded.loaded = reloaded.file) :=
  @reload_current "boot" bootstrapped reloaded
    [.arm, .truncate [deviceWith "k1"], .write, .close, .wake, .signal, .arm]
    ⟨rfl, rfl, rfl, rfl⟩
    (.cons trivial rfl (.cons trivial rfl (.cons trivial rfl (.cons (fun gap => nomatch gap) rfl
      (.cons trivial rfl (.cons (fun _ same => nomatch same) rfl (.cons trivial rfl trivial)))))))
    (by decide +kernel)

/-- A second rewrite ends between the signal and the next watch: the loop watches, nothing is
waiting, no rewrite is in progress, and the daemon keeps the first content. -/
theorem reload_missed :
    ¬ ∀ (labels : List ReloadLabel) (final : ReloadSystem),
      (ReloadSystem.step "boot").run bootstrapped labels = some final →
        final.loop = .armed 0 → final.writer = .idle → final.loaded = final.file := by
  intro claimed
  have stale := claimed
    (.arm :: rewriteWith "k1" ++ [.wake, .signal] ++ rewriteWith "k2" ++ [.arm])
    { reloaded with file := hostsContent "boot" [deviceWith "k2"] } (by decide +kernel) rfl rfl
  revert stale
  decide

end TacacsWeb.Verif
