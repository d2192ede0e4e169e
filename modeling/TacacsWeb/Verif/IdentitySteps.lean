import TacacsWeb.Verif.StepFrames
import TacacsWeb.Verif.SyncFailures

/-!
# What writes the identity tables

The identity tables only change by a sync run, from the tables as they were before the step, with
the settings, the secrets and the directory of that time: at a tick of the scheduler or when an
admin starts one.
-/

namespace TacacsWeb.Verif

open TacacsWeb.Library TacacsWeb.Library.UnitOfWork TacacsWeb.Model

/-- A sync run that goes through. -/
def SyncedFrom (host : SyncHost) (before : AdminTables) (after : IdentityTables) : Prop :=
  ∃ times summary, runFullSync host before.syncStore times = .ok (after, summary)

/-- The step is a sync: a tick of the scheduler, or the handler of a manual run. -/
def ApplicationEvent.Syncs : ApplicationEvent → Prop
  | .tick _ | .perform (.audited (.runNow _ _)) _ => True
  | _ => False

section Steps

variable {fold : CaseFolding} {app next : Application}

/-- A run in the thread of the endpoint is a full run. -/
theorem runSyncInThread_ok {host : SyncHost} {store after : SyncStore} {times : RunTimes}
    {summary : LdapSyncRunSummary}
    (ran : runSyncInThread host store times = .ok (after, summary)) :
    runFullSync host store times = .ok (after.identity, summary) := by
  unfold runSyncInThread at ran
  split at ran
  · cases ran
  · cases ran
  · cases inner : runFullSync host store times with
    | error failure =>
      rw [inner] at ran
      cases ran
    | ok outcome =>
      rw [inner] at ran
      cases ran
      rfl

/-- The manual sync run leaves the identity tables alone, or runs. -/
theorem runNow_identity (host : SyncHost) (ctx : SessionContext) (times : RunTimes)
    (plan : List UnitOfWork.Outcome) :
    (app.perform (runNowScript host ctx times) plan).tables.identity = app.tables.identity ∨
      SyncedFrom host app.tables
        (app.perform (runNowScript host ctx times) plan).tables.identity := by
  let outcome : Version AdminTables AdminChange → Prop := fun version =>
    version.tables.identity = app.tables.identity ∨
      SyncedFrom host app.tables version.tables.identity
  have start : outcome ⟨app.tables, []⟩ := .inl rfl
  -- Any change that the run may stage keeps the outcome, given which identity tables it stages.
  have kept : ∀ (version : Version AdminTables AdminChange) change moved after id later,
      (∀ identity, change = .identity identity → SyncedFrom host app.tables identity) →
        outcome version → adminEngine change version.tables moved = (.ok (after, id), later) →
          outcome ⟨after, version.journal ++ [change]⟩ := by
    intro version change moved after id later staged before taken
    by_cases writes : Area.identity ∈ AdminChange.areas change
    · cases change with
      | identity identity =>
        cases taken
        exact .inr (staged identity rfl)
      | _ => simp [AdminChange.areas, resourceAreas] at writes
    · have same : after.identity = version.tables.identity :=
        @adminEngine_same _ _ _ _ _ _ taken .identity writes
      change after.identity = app.tables.identity ∨ SyncedFrom host app.tables after.identity
      rw [same]
      exact before
  change outcome ((runNowScript host ctx times).run adminEngine
    (.start app.tables app.sequences) plan).1.durable
  unfold runNowScript
  split
  · exact start
  · refine Script.run_query_start start (fun plan => ?_) plan
    cases ran : runSyncInThread host app.tables.syncStore times with
    | error failure =>
      cases failure with
      | syncRunError message =>
        refine Script.run_keeps_staged kept ?_ app.sequences start plan
        exact ⟨fun _ same => AdminChange.noConfusion same, trivial, trivial⟩
      | _ => exact start
    | ok result =>
      obtain ⟨after, summary⟩ := result
      refine Script.run_keeps_staged kept ?_ app.sequences start plan
      have synced : SyncedFrom host app.tables after.identity :=
        ⟨times, summary, runSyncInThread_ok ran⟩
      have stagesIdentity : ∀ identity, AdminChange.identity after.identity = .identity identity →
          SyncedFrom host app.tables identity := by
        intro identity same
        rw [← AdminChange.identity.inj same]
        exact synced
      exact ⟨stagesIdentity, trivial, fun _ _ =>
        ⟨fun _ same => AdminChange.noConfusion same, trivial,
          fun _ same => AdminChange.noConfusion same, trivial, trivial⟩⟩

/-- A tick leaves the identity tables alone, or runs. -/
theorem tick_identity (host : SyncHost) (times : RunTimes) :
    (tick host app.tables.syncStore times).identity = app.tables.identity ∨
      SyncedFrom host app.tables (tick host app.tables.syncStore times).identity := by
  cases ran : runFullSync host app.tables.syncStore times with
  | error failure => exact .inl (tick_records ran).1
  | ok outcome =>
    right
    refine ⟨times, outcome.2, ?_⟩
    rw [ran]
    unfold tick runOnceSync
    rw [ran]
    rfl

/-- A step leaves the identity tables alone, or is a sync run. -/
theorem identity_step {host : ApplicationHost fold} {event : ApplicationEvent}
    (stepped : Application.step fold app (host, event) = some next) :
    next.tables.identity = app.tables.identity ∨
      ApplicationEvent.Syncs event ∧
        SyncedFrom host.admin.sync app.tables next.tables.identity := by
  by_cases outside : Area.identity ∉ ApplicationEvent.areas event
  · exact .inl (step_same stepped outside)
  · rw [not_not] at outside
    cases event with
    | tick times =>
      obtain rfl := Option.some.inj stepped
      exact (tick_identity host.admin.sync times).imp_right fun synced => ⟨trivial, synced⟩
    | perform task plan =>
      cases task with
      | audited operation =>
        cases operation with
        | runNow ctx times =>
          simp only [Application.step, ApplicationTask.caller, AuditedOperation.caller] at stepped
          split at stepped
          · obtain rfl := Option.some.inj stepped
            exact (runNow_identity host.admin.sync ctx times plan).imp_right
              fun synced => ⟨trivial, synced⟩
          · cases stepped
        | put ctx settings =>
          simp only [ApplicationEvent.areas, ApplicationTask.areas, adminAreas] at outside
          split at outside <;> simp at outside
        | _ => simp [ApplicationEvent.areas, ApplicationTask.areas, resourceAreas] at outside
      | spKeypair ctx payload tools =>
        simp only [ApplicationEvent.areas, ApplicationTask.areas, adminAreas] at outside
        split at outside <;> simp at outside
      | regenerate ctx writable => simp [ApplicationEvent.areas, ApplicationTask.areas] at outside
      | maintain ctx asked =>
        simp only [ApplicationEvent.areas, ApplicationTask.areas, adminAreas] at outside
        split at outside <;> simp at outside
    | _ => simp [ApplicationEvent.areas] at outside

end Steps

end TacacsWeb.Verif
