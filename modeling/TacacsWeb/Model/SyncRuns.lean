import Mathlib.Data.List.Perm.Basic
import TacacsWeb.Model.LdapSync

/-!
# Overlapping sync runs

`_tick` and `run_now` both run `run_full_sync` in a thread: it fetches the accounts of the
directory and, once it has all of them, hands them to `run_sync`. The scheduler starts no job
while one is under way (`max_instances=1`), the endpoint always starts one, and neither knows of
the other. The directory changes in between as it likes, and returns its accounts in any order.
-/

namespace TacacsWeb.Model

open TacacsWeb.Library

/-- What starts a run. -/
inductive SyncTrigger where
  /-- The job of the scheduler. -/
  | scheduled
  /-- `POST /settings/ldap-sync/run`. -/
  | manual
deriving DecidableEq

/-- A run that has fetched its accounts. -/
structure SyncRun where
  /-- What started it. -/
  trigger : SyncTrigger
  /-- The accounts it has fetched. -/
  records : List ADUserRecord
  /-- Whether it has applied them and ended. -/
  isApplied : Bool
deriving DecidableEq

/-- The directory, the tables and the runs. -/
structure SyncSystem where
  /-- The accounts that are in the directory now. -/
  directory : List ADUserRecord
  /-- The committed tables. -/
  tables : IdentityTables
  /-- The runs, in the order of their fetches. -/
  runs : List SyncRun
deriving DecidableEq

/-- What can happen next. -/
inductive SyncEvent where
  /-- The directory changes. -/
  | change (directory : List ADUserRecord)
  /-- A run fetches the accounts, which come in some order. -/
  | fetch (trigger : SyncTrigger) (records : List ADUserRecord)
  /-- A run, by its place in the order of fetches, applies what it has fetched at these times. -/
  | apply (index startedAt now finishedAt : Nat)
deriving DecidableEq

/-- The scheduler starts a job when none of its own is under way. -/
def mayStart (runs : List SyncRun) : SyncTrigger → Bool
  | .manual => true
  | .scheduled => runs.all fun run => run.trigger = .manual || run.isApplied

/-- One event. A run whose `run_sync` raises has no step: all runs succeed here. -/
def overlapStep (fold : CaseFolding) : Step SyncSystem SyncEvent
  | system, .change directory => some { system with directory := directory }
  | system, .fetch trigger records =>
    if mayStart system.runs trigger && records.isPerm system.directory then
      some { system with runs := system.runs ++ [⟨trigger, records, false⟩] }
    else none
  | system, .apply index startedAt now finishedAt =>
    match system.runs[index]? with
    | none => none
    | some run =>
      if run.isApplied then none else
        match runSync fold system.tables ⟨startedAt, now, finishedAt, run.records⟩ with
        | .error _ => none
        | .ok (committed, _) =>
          some { system with
            tables := committed
            runs := system.runs.set index { run with isApplied := true } }

end TacacsWeb.Model
