import TacacsWeb.Model.SyncRuns
import TacacsWeb.Verif.SyncOutcome

/-!
# Syncs that overlap

Runs of the scheduler and of the endpoint fetch and apply independently, so a run that fetched
early may apply late and bring accounts back that a newer snapshot has disabled. Where no run
applies its accounts after those of a newer fetch, the tables show the newest snapshot once all
runs have ended.
-/

namespace TacacsWeb.Verif

open TacacsWeb.Library TacacsWeb.Model

variable {fold : CaseFolding} {tables committed : IdentityTables} {system next : SyncSystem}

/-! ## What a snapshot looks like in the tables -/

/-- The enabled users are the accounts of the snapshot, each in exactly its groups. -/
structure Shows (tables : IdentityTables) (records : List ADUserRecord) : Prop where
  /-- Enabled are the users whose GUID is that of an account. -/
  enabled : ∀ user ∈ tables.users, user.enabled = true ↔
    ∃ record ∈ records, user.adObjectGuid = record.adObjectGuid
  /-- Every account has a row with its groups. -/
  member : ∀ record ∈ records, ∃ row ∈ tables.users, row.adObjectGuid = record.adObjectGuid ∧
    MemberOfExactly tables row.id (record.groups.map ADGroupRecord.sid)

/-- A run leaves tables that show its records. -/
theorem Outcome.shows {before : IdentityTables} {records : List ADUserRecord}
    (valid : committed.Valid fold) (accounts : ToldApart fold records)
    (outcome : Outcome before records committed (rowOf committed)) : Shows committed records where
  enabled user listed := by
    constructor
    · intro enabled
      by_contra nobody
      have apart : ∀ record ∈ records, rowOf committed record ≠ user.id := by
        intro record given same
        obtain ⟨row, there, id, carries⟩ := outcome.carries record given
        obtain rfl := List.inj_on_of_nodup_map valid.userId there listed (id.trans same)
        exact nobody ⟨record, given, carries.adObjectGuid⟩
      obtain ⟨old, -, rfl⟩ := (outcome.others user apart).mp listed
      cases enabled
    · rintro ⟨record, given, carried⟩
      obtain ⟨guid, -, named⟩ := accounts.guid record given
      obtain ⟨row, there, id, carries⟩ := outcome.carries record given
      have same : row.id = user.id := id.trans (rowOf_eq valid named listed carried)
      obtain rfl := List.inj_on_of_nodup_map valid.userId there listed same
      exact carries.enabled
  member record given := by
    obtain ⟨row, there, id, carries⟩ := outcome.carries record given
    refine ⟨row, there, carries.adObjectGuid, ?_⟩
    rw [id]
    exact outcome.member record given

/-! ## Runs in the order of their fetches -/

/-- The accounts of a newer fetch have been applied. -/
def Outdated (runs : List SyncRun) (index : Nat) : Prop :=
  ∃ later newer, index < later ∧ runs[later]? = some newer ∧ newer.isApplied = true ∧
    newer.records ≠ []

/-- No run applies its accounts after those of a newer fetch. -/
def InFetchOrder (system : SyncSystem) : SyncEvent → Prop
  | .apply index _ _ _ =>
    (∃ run, system.runs[index]? = some run ∧ run.records ≠ []) → ¬Outdated system.runs index
  | _ => True

/-- The directory keeps its promise when it changes. -/
def Promised (fold : CaseFolding) : SyncEvent → Prop
  | .change directory => ToldApart fold directory
  | _ => True

instance (fold : CaseFolding) : DecidablePred (Promised fold)
  | .change directory => inferInstanceAs (Decidable (ToldApart fold directory))
  | .fetch _ _ => isTrue trivial
  | .apply _ _ _ _ => isTrue trivial

/-- What every run in the order of the fetches keeps. -/
structure OverlapInvariant (fold : CaseFolding) (system : SyncSystem) : Prop where
  /-- The tables meet their constraints. -/
  valid : system.tables.Valid fold
  /-- The accounts of the directory are told apart. -/
  directory : ToldApart fold system.directory
  /-- The accounts that were fetched are told apart. -/
  fetched : ∀ run ∈ system.runs, ToldApart fold run.records
  /-- The tables show the newest accounts that were applied. -/
  shown : ∀ index run, system.runs[index]? = some run → run.isApplied = true →
    run.records ≠ [] → ¬Outdated system.runs index → Shows system.tables run.records

/-- A run that has just fetched outdates nothing. -/
theorem Outdated.append {runs : List SyncRun} {index : Nat} (run : SyncRun)
    (outdated : Outdated runs index) : Outdated (runs ++ [run]) index := by
  obtain ⟨later, newer, after, found, applied, some⟩ := outdated
  refine ⟨later, newer, after, ?_, applied, some⟩
  rw [List.getElem?_append_left (List.getElem?_eq_some_iff.mp found).1]
  exact found

/-- A run that applies its accounts leaves outdated what is. -/
theorem Outdated.set {runs : List SyncRun} {index applied : Nat} {run changed : SyncRun}
    (outdated : Outdated runs index) (found : runs[applied]? = some run)
    (pending : run.isApplied = false) : Outdated (runs.set applied changed) index := by
  obtain ⟨later, newer, after, there, done, some⟩ := outdated
  refine ⟨later, newer, after, ?_, done, some⟩
  have different : applied ≠ later := by
    rintro rfl
    rw [found] at there
    obtain rfl := Option.some.inj there
    rw [pending] at done
    cases done
  rw [List.getElem?_set_ne different]
  exact there

/-- A fetch keeps the invariant. -/
theorem OverlapInvariant.fetch {trigger : SyncTrigger} {records : List ADUserRecord}
    (kept : OverlapInvariant fold system) (perm : records.Perm system.directory) :
    OverlapInvariant fold
      { system with runs := system.runs ++ [⟨trigger, records, false⟩] } := by
  refine { kept with fetched := ?_, shown := ?_ }
  · intro run listed
    rcases List.mem_append.mp listed with old | new
    · exact kept.fetched run old
    · obtain rfl := List.mem_singleton.mp new
      exact kept.directory.perm perm.symm
  · intro index run found applied some current
    rw [List.getElem?_append] at found
    split at found
    · exact kept.shown index run found applied some fun outdated => current (outdated.append _)
    · obtain rfl := List.mem_singleton.mp (List.mem_of_getElem? found)
      cases applied

/-- An apply in the order of the fetches keeps the invariant. -/
theorem OverlapInvariant.apply {index startedAt now finishedAt : Nat} {run : SyncRun}
    {result : SyncResult} (kept : OverlapInvariant fold system)
    (found : system.runs[index]? = some run) (pending : run.isApplied = false)
    (ordered : run.records ≠ [] → ¬Outdated system.runs index)
    (ran : runSync fold system.tables ⟨startedAt, now, finishedAt, run.records⟩ =
      .ok (committed, result)) :
    OverlapInvariant fold { system with
      tables := committed, runs := system.runs.set index { run with isApplied := true } } := by
  have accounts := kept.fetched run (List.mem_of_getElem? found)
  have valid := runSync_valid kept.valid ran
  refine ⟨valid, kept.directory, ?_, ?_⟩
  · intro other listed
    rcases List.mem_or_eq_of_mem_set listed with old | rfl
    · exact kept.fetched other old
    · exact accounts
  · intro place other there applied some current
    by_cases empty : run.records = []
    · -- A run without accounts changes nothing, and is not shown itself.
      obtain ⟨counters, unchanged⟩ :=
        @runSync_nil fold system.tables ⟨startedAt, now, finishedAt, run.records⟩ empty
      rw [ran] at unchanged
      obtain rfl : committed = system.tables := congrArg Prod.fst (Except.ok.inj unchanged)
      have different : index ≠ place := by
        rintro rfl
        rw [List.getElem?_set_self (List.getElem?_eq_some_iff.mp found).1] at there
        obtain rfl := Option.some.inj there
        exact some empty
      rw [List.getElem?_set_ne different] at there
      exact kept.shown place other there applied some fun outdated =>
        current (outdated.set found pending)
    · rcases Nat.lt_trichotomy place index with before | rfl | after
      · -- The run outdates every earlier one.
        refine absurd ⟨index, { run with isApplied := true }, before, ?_, rfl, empty⟩ current
        exact List.getElem?_set_self (List.getElem?_eq_some_iff.mp found).1
      · rw [List.getElem?_set_self (List.getElem?_eq_some_iff.mp found).1] at there
        obtain rfl := Option.some.inj there
        exact (runSync_outcome kept.valid accounts empty ran).shows valid accounts
      · rw [List.getElem?_set_ne (Nat.ne_of_lt after)] at there
        exact absurd ⟨place, other, after, there, applied, some⟩ (ordered empty)

/-- Every event in the order of the fetches keeps the invariant. -/
theorem overlapStep_keeps {event : SyncEvent} (kept : OverlapInvariant fold system)
    (ordered : InFetchOrder system event) (promised : Promised fold event)
    (stepped : overlapStep fold system event = some next) : OverlapInvariant fold next := by
  cases event with
  | change directory =>
    cases stepped
    exact { kept with directory := promised }
  | fetch trigger records =>
    simp only [overlapStep] at stepped
    split at stepped
    · rename_i started
      cases stepped
      exact kept.fetch (List.isPerm_iff.mp (Bool.and_eq_true_iff.mp started).2)
    · cases stepped
  | apply index startedAt now finishedAt =>
    simp only [overlapStep] at stepped
    split at stepped
    · cases stepped
    · rename_i run found
      split at stepped
      · cases stepped
      · rename_i pending
        split at stepped
        · cases stepped
        · rename_i committed result ran
          cases stepped
          exact kept.apply found (Bool.eq_false_iff.mpr pending)
            (fun some => ordered ⟨run, found, some⟩) ran

/-- In every run in the order of the fetches, from tables without a sync under way: when all syncs
have ended, the tables show the newest snapshot that has accounts. -/
theorem newest_snapshot_shown {start final : SyncSystem} {events : List SyncEvent}
    {before later : List SyncRun} {run : SyncRun} (valid : start.tables.Valid fold)
    (accounts : ToldApart fold start.directory) (idle : start.runs = [])
    (promised : ∀ event ∈ events, Promised fold event)
    (ordered : (overlapStep fold).Admits InFetchOrder start events)
    (ran : (overlapStep fold).run start events = some final)
    (ended : ∀ run ∈ final.runs, run.isApplied = true)
    (split : final.runs = before ++ run :: later) (some : run.records ≠ [])
    (newest : ∀ newer ∈ later, newer.records = []) : Shows final.tables run.records := by
  have begun : OverlapInvariant fold start :=
    ⟨valid, accounts, by simp [idle], by simp [idle]⟩
  have kept := Step.run_preserves (OverlapInvariant fold)
    (fun _ _ _ holds guarded stepped => overlapStep_keeps holds guarded.1 guarded.2 stepped) begun
    (ordered.and promised) ran
  have found : final.runs[before.length]? = Option.some run := by simp [split]
  refine kept.shown before.length run found (ended run (by simp [split])) some ?_
  rintro ⟨place, newer, after, there, -, given⟩
  refine given (newest newer ?_)
  rw [split, List.getElem?_append_right (Nat.le_of_lt after)] at there
  obtain ⟨offset, positive⟩ : ∃ offset, place - before.length = offset + 1 :=
    ⟨place - before.length - 1, by omega⟩
  rw [positive, List.getElem?_cons_succ] at there
  exact List.mem_of_getElem? there

/-- Both accounts are in the directory and in the tables. -/
def bothPresent : SyncSystem := ⟨[account "jan" "g1", account "eva" "g2"], twoAccounts, []⟩

/-- A manual run fetches before the second account leaves, and a scheduled one after. -/
def leftBetweenFetches : List SyncEvent :=
  [.fetch .manual [account "jan" "g1", account "eva" "g2"], .change [account "jan" "g1"],
    .fetch .scheduled [account "jan" "g1"]]

/-- The second account has left and is disabled. -/
def oneLeft : IdentityTables :=
  ⟨[accountRow 1 "jan" "g1", { accountRow 2 "eva" "g2" with enabled := false }], [], [], 3, 1⟩

/-- Both runs under way, and what each of them has fetched. -/
def bothFetched (tables : IdentityTables) (first second : Bool) : SyncSystem :=
  ⟨[account "jan" "g1"], tables,
    [⟨.manual, [account "jan" "g1", account "eva" "g2"], first⟩,
      ⟨.scheduled, [account "jan" "g1"], second⟩]⟩

/-- The manual run applies first, and the tables show that the account has left. -/
theorem newest_snapshot_shown_left : Shows oneLeft [account "jan" "g1"] := by
  have manual : overlapStep .ascii (bothFetched twoAccounts false false) (.apply 0 0 0 0) =
      some (bothFetched twoAccounts true false) := by decide +kernel
  have scheduled : overlapStep .ascii (bothFetched twoAccounts true false) (.apply 1 0 0 0) =
      some (bothFetched oneLeft true true) := by decide +kernel
  have pending : ∀ run ∈ (bothFetched twoAccounts false false).runs, run.isApplied = false := by
    decide
  refine @newest_snapshot_shown .ascii bothPresent (bothFetched oneLeft true true)
    (leftBetweenFetches ++ [.apply 0 0 0 0, .apply 1 0 0 0])
    [⟨.manual, [account "jan" "g1", account "eva" "g2"], true⟩] []
    ⟨.scheduled, [account "jan" "g1"], true⟩ (reachable_valid twoAccounts_reachable)
    (by decide +kernel) rfl (by decide +kernel) ?_ (by decide +kernel) (by decide) rfl (by decide)
    (by decide)
  refine .cons trivial rfl (.cons trivial rfl (.cons trivial rfl
    (.cons (fun _ outdated => ?_) manual (.cons (fun _ outdated => ?_) scheduled trivial))))
  · obtain ⟨later, newer, -, found, applied, -⟩ := outdated
    rw [pending newer (List.mem_of_getElem? found)] at applied
    cases applied
  · obtain ⟨later, newer, after, found, -, -⟩ := outdated
    have inRange : later < 2 := (List.getElem?_eq_some_iff.mp found).1
    omega

/-- The scheduled run applies first, and the manual one brings the account back that has left. -/
theorem older_snapshot_restores :
    ¬ ∀ (start final : SyncSystem) (events : List SyncEvent) (before : List SyncRun)
        (run : SyncRun), start.tables.Valid .ascii → ToldApart .ascii start.directory →
      start.runs = [] → (∀ event ∈ events, Promised .ascii event) →
        (overlapStep .ascii).run start events = some final →
          (∀ run ∈ final.runs, run.isApplied = true) → final.runs = before ++ [run] →
            Shows final.tables run.records := by
  intro claimed
  have shows := claimed bothPresent (bothFetched twoAccounts true true)
    (leftBetweenFetches ++ [.apply 1 0 0 0, .apply 0 0 0 0])
    [⟨.manual, [account "jan" "g1", account "eva" "g2"], true⟩]
    ⟨.scheduled, [account "jan" "g1"], true⟩ (reachable_valid twoAccounts_reachable)
    (by decide +kernel) rfl (by decide +kernel) (by decide +kernel) (by decide) rfl
  have gone := (shows.enabled (accountRow 2 "eva" "g2") (by decide)).mp rfl
  revert gone
  decide

end TacacsWeb.Verif
