import TacacsWeb.Verif.AccessTrace
import TacacsWeb.Verif.Privileges
import TacacsWeb.Verif.SyncOutcome

/-!
# Accounts that have left the directory

Nothing but a sync writes the row of an account. Once a sync that saw anybody has found the
directory without the account, its row is disabled, and it stays so as long as no sync finds the
account again, whatever else happens to the application: no password is passed on to the directory
for it, no device is told to let it in, and it gets no further session.
-/

namespace TacacsWeb.Verif

open TacacsWeb.Library TacacsWeb.Library.UnitOfWork TacacsWeb.Model

section Directory

variable {fold : CaseFolding} {tables committed : IdentityTables} {user : User}

/-- The record is not that of the account: neither the GUID nor the name is. -/
structure Unmatched (fold : CaseFolding) (user : User) (record : ADUserRecord) : Prop where
  /-- The GUID is not that of the row. -/
  guid : ∀ guid, record.guid = some guid → user.adObjectGuid ≠ some guid
  /-- The name is not that of the row. -/
  name : fold.sql user.samAccountName ≠ fold.python record.samAccountName

/-- A record finds no row that it does not match. -/
theorem Unmatched.not_found {record : ADUserRecord} (unmatched : Unmatched fold user record)
    {users : List User} : findExistingUser fold users record ≠ .ok (some user) := by
  intro found
  obtain ⟨-, ⟨guid, given, carried⟩ | ⟨-, name⟩⟩ := findExistingUser_some found
  · exact unmatched.guid guid given carried
  · exact unmatched.name name

/-- What holds of the row of an account between two records of a run that do not match it. -/
structure PassedOver (fold : CaseFolding) (user : User) (state : SyncState) : Prop where
  /-- The invariant of the run. -/
  kept : SyncInvariant fold state
  /-- The row is as it was. -/
  listed : user ∈ state.tables.users
  /-- The run has not seen the account. -/
  unseen : user.id ∉ state.seenUserIds
  /-- The run counts those it has seen. -/
  counted : state.result.usersSeen = state.seenUserIds.length

/-- A record that does not match the account passes it over. -/
theorem PassedOver.record {now : Nat} {state next : SyncState} {record : ADUserRecord}
    (before : PassedOver fold user state) (unmatched : Unmatched fold user record)
    (passed : syncRecord fold now state record = .ok next) : PassedOver fold user next := by
  have kept : SyncInvariant fold next := by
    obtain ⟨-, -, -, -, -, kept⟩ := syncRecord_written before.kept passed
    exact kept
  obtain ⟨written, row, inserted, last, known, upserted, replaced, rfl⟩ := syncRecord_cases passed
  have groups := replaceUserGroups_kept (upsertUser_valid before.kept.valid upserted)
    (before.kept.remembered.upsert upserted) replaced
  have valid : state.tables.Valid fold := before.kept.valid
  have apart : user ∈ written.users ∧ user.id ≠ row.id := by
    rcases upsertUser_cases upserted with ⟨-, -, rfl, -, rfl⟩ | ⟨existing, found, -, rfl, -, rfl⟩
    · exact ⟨List.mem_append_left _ before.listed, (valid.userSequence user before.listed).ne⟩
    · have other : user.id ≠ existing.id := by
        intro same
        have equal : user = existing := List.inj_on_of_nodup_map valid.userId before.listed
          (findExistingUser_some found).1 same
        exact unmatched.not_found (equal ▸ found)
      exact ⟨mem_replaceRow_of_ne before.listed other, other⟩
  refine ⟨kept, ?_, ?_, ?_⟩
  · change user ∈ last.users
    rw [groups.frame.users]
    exact apart.1
  · exact List.not_mem_cons_of_ne_of_not_mem apart.2 before.unseen
  · change state.result.usersSeen + 1 = (row.id :: state.seenUserIds).length
    rw [before.counted, List.length_cons]

/-- A run whose records do not match an account leaves its row alone, or disables it; the latter,
if it has seen anybody. -/
theorem runSync_unmatched {call : SyncCall} {result : SyncResult} (valid : tables.Valid fold)
    (listed : user ∈ tables.users) (unmatched : ∀ record ∈ call.records, Unmatched fold user record)
    (ran : runSync fold tables call = .ok (committed, result)) :
    (result.usersSeen = 0 ∧ user ∈ committed.users) ∨
      { user with enabled := false } ∈ committed.users := by
  obtain ⟨last, passed, finished⟩ := runSync_eq_ok.mp ran
  have start : PassedOver fold user (.initial call.startedAt tables) :=
    ⟨syncInvariant_initial call.startedAt valid, listed, List.not_mem_nil, rfl⟩
  have admitted := (Step.admits_of_forall (fun _ _ => trivial) (SyncState.initial call.startedAt
    tables) call.records : (recordStep fold call.now).Admits (fun _ _ => True) _ _).and unmatched
  have kept : PassedOver fold user last :=
    Step.run_preserves (PassedOver fold user)
      (fun state record next before unmatched stepped =>
        before.record unmatched.2 (passes_eq_some.mp stepped)) start admitted passed
  by_cases nobody : last.seenUserIds = []
  · left
    have counted : result.usersSeen = last.result.usersSeen := by
      rw [show result = (finishSync call.finishedAt last).2 by rw [finished]]
      rfl
    constructor
    · rw [counted, kept.counted, nobody, List.length_nil]
    · have users : committed.users = last.tables.users := by
        rw [show committed = (finishSync call.finishedAt last).1 by rw [finished]]
        simp only [finishSync, nobody, if_true]
      rw [users]
      exact kept.listed
  · exact .inr ((mem_finishSync nobody finished _).mpr (.inr ⟨kept.unseen, user, kept.listed, rfl⟩))

end Directory

section Runs

variable {fold : CaseFolding} {app next : Application} {user : User}

/-- If the step is a sync, what it fetches, as it is configured, is not the account. -/
def Unlisted (user : User) (app : Application)
    (label : ApplicationHost fold × ApplicationEvent) : Prop :=
  ApplicationEvent.Syncs label.2 →
    ∀ records, fetchedRecords label.1.admin.sync app.tables.syncStore = some records →
      ∀ record ∈ records, Unmatched fold user record

/-- The account has a row under its name that is disabled. -/
structure LockedOut (fold : CaseFolding) (user : User) (tables : AdminTables) : Prop where
  /-- The constraints hold. -/
  valid : tables.Valid fold
  /-- The row. -/
  row : { user with enabled := false } ∈ tables.identity.users

/-- A step without the account keeps it locked out. -/
theorem LockedOut.step {label : ApplicationHost fold × ApplicationEvent}
    (before : LockedOut fold user app.tables) (unlisted : Unlisted user app label)
    (stepped : Application.step fold app label = some next) : LockedOut fold user next.tables := by
  refine ⟨valid_step before.valid stepped, ?_⟩
  obtain ⟨host, event⟩ := label
  rcases identity_step stepped with same | ⟨syncs, times, summary, ran⟩
  · rw [same]
    exact before.row
  · obtain ⟨call, result, fetched, synced, -⟩ := runFullSync_ok ran
    rw [host.folding] at synced
    have unmatched : ∀ record ∈ call.records,
        Unmatched fold { user with enabled := false } record := by
      intro record listed
      have same : Unmatched fold user record := unlisted syncs _ fetched record listed
      exact ⟨same.guid, same.name⟩
    rcases runSync_unmatched before.valid.identity before.row unmatched synced with
      ⟨-, kept⟩ | disabled
    · exact kept
    · exact disabled

/-- A run without the account keeps it locked out. -/
theorem LockedOut.run {labels : List (ApplicationHost fold × ApplicationEvent)}
    (before : LockedOut fold user app.tables)
    (unlisted : (Application.step fold).Admits (Unlisted user) app labels)
    (ran : (Application.step fold).run app labels = some next) :
    LockedOut fold user next.tables :=
  Step.run_preserves (fun state => LockedOut fold user state.tables)
    (fun _ _ _ held without stepped => held.step without stepped) before unlisted ran

/-- A sync that saw anybody but the account locks it out. -/
theorem locked_out_of_synced {host : ApplicationHost fold} {event : ApplicationEvent}
    {times : RunTimes} {summary : LdapSyncRunSummary} (valid : app.tables.Valid fold)
    (listed : user ∈ app.tables.identity.users) (syncs : ApplicationEvent.Syncs event)
    (unlisted : Unlisted user app (host, event))
    (stepped : Application.step fold app (host, event) = some next)
    (synced : runFullSync host.admin.sync app.tables.syncStore times =
      .ok (next.tables.identity, summary)) (seen : 0 < summary.usersSeen) :
    LockedOut fold user next.tables := by
  refine ⟨valid_step valid stepped, ?_⟩
  obtain ⟨call, result, fetched, ran, counted⟩ := runFullSync_ok synced
  rw [host.folding] at ran
  rcases runSync_unmatched valid.identity listed (unlisted syncs _ fetched) ran with
    ⟨nobody, -⟩ | disabled
  · omega
  · exact disabled

/-- The row is what a lookup of the name finds. -/
theorem LockedOut.found {tables : AdminTables} (locked : LockedOut fold user tables)
    {name : String} (named : fold.sql user.samAccountName = fold.python name) :
    findByUsername fold tables.identity.users name =
      .ok (some { user with enabled := false }) :=
  findByUsername_of_unique locked.valid.identity.lowerSamAccountName locked.row named

/-- The account has no further SAML login. -/
theorem LockedOut.no_login {host : ApplicationHost fold} {event : ApplicationEvent}
    (locked : LockedOut fold user app.tables) {created : WebSession}
    (named : fold.sql user.samAccountName = fold.python created.usernameSnapshot)
    (saml : created.authMethod = .saml) : ¬LoginBehind app (host, event) created := by
  intro login
  cases login with
  | localAdmin account credentials => cases saml
  | saml credentials =>
    obtain ⟨-, -, row, -, -, -, -, -, found, enabled, -⟩ := credentials.accepted
    have looked := locked.found named
    obtain rfl := Option.some.inj (Except.ok.inj (found.symm.trans looked))
    cases enabled

/-- In every run of a new installation, when a sync has gone through that saw anybody and did not
find an account that has a row, then as long as no sync finds it, the account is disabled, a
password for its name is refused without being passed on, no device is told to let it in, and its
SAML sessions are those from before the end of that sync. -/
theorem leaver_locked_out {labels more : List (ApplicationHost fold × ApplicationEvent)}
    {last : Application} (ran : (Application.step fold).run .installed labels = some app)
    (listed : user ∈ app.tables.identity.users) {host : ApplicationHost fold}
    {event : ApplicationEvent} {times : RunTimes} {summary : LdapSyncRunSummary}
    (stepped : Application.step fold app (host, event) = some next)
    (syncs : ApplicationEvent.Syncs event)
    (synced : runFullSync host.admin.sync app.tables.syncStore times =
      .ok (next.tables.identity, summary)) (seen : 0 < summary.usersSeen)
    (unlisted : (Application.step fold).Admits (Unlisted user) app ((host, event) :: more))
    (continued : (Application.step fold).run next more = some last) :
    { user with enabled := false } ∈ last.tables.identity.users ∧
      (∀ server req, fold.sql user.samAccountName = fold.python req.username →
        (mavisAuth fold last.tables.database server req).2 = [] ∧
        ∃ row, answered fold server last.tables last.sequences req =
          committedAnswer last.tables row ⟨.nak, some "user_disabled"⟩) ∧
      (∀ deviceOrder authorizationOrder req,
        fold.sql user.samAccountName = fold.python req.username →
          ∃ row, informed fold last.tables last.sequences deviceOrder authorizationOrder req =
            committedAnswer last.tables row ⟨.nak, some "user_disabled", none⟩) ∧
      ∀ session ∈ last.sessions, session.authMethod = .saml →
        fold.sql user.samAccountName = fold.python session.usernameSnapshot →
          StoresSession next (asCreated session) := by
  have locked : LockedOut fold user next.tables :=
    locked_out_of_synced (run_valid ran) listed syncs unlisted.1 stepped synced seen
  have after := unlisted.2 next stepped
  have still : LockedOut fold user last.tables := locked.run after continued
  refine ⟨still.row, fun server req named => ?_, fun deviceOrder authorizationOrder req named => ?_,
    fun session stored saml named => ?_⟩
  · have looked := still.found named
    refine ⟨?_, _, answered_of_ok looked rfl⟩
    simp only [mavisAuth, AdminTables.database, looked]
    rfl
  · exact ⟨_, informed_of_found (still.found named)⟩
  · have held : StoresSession last (asCreated session) := ⟨session, stored, rfl⟩
    rcases Step.run_origin StoresSession LoginBehind
      (fun before label after created stepped stored => stored_step stepped stored)
      continued held with before | ⟨earlier, label, later, before, split, reached, login⟩
    · exact before
    · rw [split] at after
      have prior : LockedOut fold user before.tables := locked.run (after.append reached).1 reached
      exact absurd login (prior.no_login named saml)

end Runs

/-! ## An account that has left -/

/-- The directory after `eva` has left. -/
def withoutEva : LdapClient :=
  { swapped with
    search := fun _ filter _ _ =>
      if filter = defaultUserFilter then ⟨[entryOf "jan" (List.replicate 16 2)], none⟩
      else ⟨[], none⟩ }

/-- The site once the account is gone from the directory. -/
def siteWithoutEva : ApplicationHost .ascii :=
  { siteWithDirectory with
    admin := { siteWithDirectory.admin with sync := hostOf withoutEva }
    folding := rfl }

/-- The tick that finds the account gone. -/
def leavingTick : ApplicationHost .ascii × ApplicationEvent :=
  (siteWithoutEva, .tick ⟨80, 80, 80, 81⟩)

/-- The application after that tick. -/
def afterLeaving : Application :=
  (Application.step .ascii afterFirstAccess leavingTick).getD .installed

/-- The application after the tick that follows. -/
def afterNextTick : Application :=
  (Application.step .ascii afterLeaving leavingTick).getD .installed

/-- The row of `eva`. -/
def evaRow : User where
  id := 1
  samAccountName := "eva"
  adObjectGuid := some "01010101-0101-0101-0101-010101010101"
  distinguishedName := "cn=eva,dc=corp"
  upn := none
  displayName := none
  enabled := true
  lastSeenInSyncAt := some 70

/-- What is left of the directory. -/
def janRecord : ADUserRecord where
  samAccountName := "jan"
  adObjectGuid := some "02020202-0202-0202-0202-020202020202"
  distinguishedName := "cn=jan,dc=corp"
  upn := none
  displayName := none
  groups := []

/-- The account is not found. -/
theorem janRecord_unmatched : Unmatched .ascii evaRow janRecord where
  guid := fun guid given same => absurd (given.trans same.symm) (by decide)
  name := by decide

/-- `eva` stays locked out over a further sync. -/
theorem leaver_locked_out_eva :
    { evaRow with enabled := false } ∈ afterNextTick.tables.identity.users ∧
      (∀ server req, "eva" = CaseFolding.ascii.python req.username →
        (mavisAuth .ascii afterNextTick.tables.database server req).2 = [] ∧
        ∃ row, answered .ascii server afterNextTick.tables afterNextTick.sequences req =
          committedAnswer afterNextTick.tables row ⟨.nak, some "user_disabled"⟩) ∧
      (∀ deviceOrder authorizationOrder req,
        "eva" = CaseFolding.ascii.python req.username →
          ∃ row, informed .ascii afterNextTick.tables afterNextTick.sequences deviceOrder
              authorizationOrder req =
            committedAnswer afterNextTick.tables row ⟨.nak, some "user_disabled", none⟩) ∧
      ∀ session ∈ afterNextTick.sessions, session.authMethod = .saml →
        "eva" = CaseFolding.ascii.python session.usernameSnapshot →
          StoresSession afterLeaving (asCreated session) := by
  have ran : (Application.step .ascii).run .installed firstAccess = some afterFirstAccess := rfl
  have listed : evaRow ∈ afterFirstAccess.tables.identity.users := by decide +kernel
  have stepped : Application.step .ascii afterFirstAccess leavingTick = some afterLeaving := rfl
  have synced : runFullSync siteWithoutEva.admin.sync afterFirstAccess.tables.syncStore
      ⟨80, 80, 80, 81⟩ =
        .ok (afterLeaving.tables.identity, ⟨80, some 81, 1, 0, 1, 1, 0, none⟩) := by
    decide +kernel
  have unlisted : ∀ app : Application,
      fetchedRecords siteWithoutEva.admin.sync app.tables.syncStore = some [janRecord] →
        Unlisted evaRow app leavingTick := by
    intro app fetched _ records found record present
    obtain rfl := Option.some.inj (fetched.symm.trans found)
    rw [List.mem_singleton.mp present]
    exact janRecord_unmatched
  have admitted : (Application.step .ascii).Admits (Unlisted evaRow) afterFirstAccess
      [leavingTick, leavingTick] :=
    .cons (unlisted _ (by decide +kernel)) stepped
      ⟨unlisted _ (by decide +kernel), fun _ _ => trivial⟩
  have continued : (Application.step .ascii).run afterLeaving [leavingTick] = some afterNextTick :=
    rfl
  exact leaver_locked_out ran listed stepped trivial synced (by decide) admitted continued

end TacacsWeb.Verif
