import Mathlib.Data.Set.Function
import TacacsWeb.Verif.SyncCompletes
import TacacsWeb.Verif.SyncProgress

/-!
# What a sync leaves behind

After a run on a snapshot every record has a row of its own that holds what the record gives, with
memberships in exactly its groups. All other rows are disabled and otherwise as they were before
the run, whatever rows the records were matched with on the way.
-/

namespace TacacsWeb.Verif

open TacacsWeb.Library TacacsWeb.Model

variable {fold : CaseFolding} {tables start committed : IdentityTables}

/-! ## The end of the loop -/

/-- A run that returns has come through all its records. -/
theorem runSync_progress {call : SyncCall} {result : SyncResult} (valid : tables.Valid fold)
    (accounts : ToldApart fold call.records)
    (ran : runSync fold tables call = .ok (committed, result)) :
    ∃ last, SyncProgress fold tables call.records last ∧
      finishSync call.finishedAt last = (committed, result) := by
  obtain ⟨last, passed, finished⟩ := runSync_eq_ok.mp ran
  have begun := syncProgress_initial call.startedAt valid
  have whole : ToldApart fold ([] ++ call.records) := accounts
  obtain ⟨progress, -⟩ := begun.addAll valid whole passed
  exact ⟨last, progress, finished⟩

/-- Rows have been matched unless there was no record. -/
theorem SyncProgress.seen_ne_nil {records : List ADUserRecord} {state : SyncState}
    (progress : SyncProgress fold start records state) (nonempty : records ≠ []) :
    state.seenUserIds ≠ [] := by
  intro empty
  obtain ⟨record, listed⟩ := List.exists_mem_of_ne_nil records nonempty
  obtain ⟨row, -, seen, -⟩ := progress.rows record listed
  rw [empty] at seen
  exact List.not_mem_nil seen

/-- The end of a run disables the rows that were not matched and changes nothing else. -/
theorem mem_finishSync {finishedAt : Nat} {state : SyncState} {result : SyncResult}
    (nonempty : state.seenUserIds ≠ [])
    (finished : finishSync finishedAt state = (committed, result)) (user : User) :
    user ∈ committed.users ↔
      (user.id ∈ state.seenUserIds ∧ user ∈ state.tables.users) ∨
        (user.id ∉ state.seenUserIds ∧
          ∃ old ∈ state.tables.users, user = { old with enabled := false }) := by
  have users : committed.users = state.tables.users.map fun user =>
      if isStale state.seenUserIds user then { user with enabled := false } else user := by
    have same : (finishSync finishedAt state).1 = committed := by rw [finished]
    simp only [← same, finishSync, if_neg nonempty]
  rw [users, List.mem_map]
  constructor
  · rintro ⟨old, listed, rfl⟩
    by_cases seen : old.id ∈ state.seenUserIds
    · have fresh : isStale state.seenUserIds old = false := by simp [isStale, seen]
      rw [fresh]
      exact .inl ⟨seen, listed⟩
    · cases flag : old.enabled with
      | true =>
        have stale : isStale state.seenUserIds old = true := by simp [isStale, seen, flag]
        rw [stale]
        exact .inr ⟨seen, old, listed, rfl⟩
      | false =>
        -- A row that is disabled already is not written.
        have idle : isStale state.seenUserIds old = false := by simp [isStale, flag]
        have same : old = { old with enabled := false } := by rw [← flag]
        rw [idle]
        exact .inr ⟨seen, old, listed, same⟩
  · rintro (⟨seen, listed⟩ | ⟨unseen, old, listed, rfl⟩)
    · exact ⟨user, listed, if_neg (by simp [isStale, seen])⟩
    · refine ⟨old, listed, ?_⟩
      have stranger : old.id ∉ state.seenUserIds := unseen
      cases flag : old.enabled with
      | true => exact if_pos (by simp [isStale, stranger, flag])
      | false =>
        have same : old = { old with enabled := false } := by rw [← flag]
        rw [if_neg (by simp [isStale, flag])]
        exact same

/-- The groups and memberships are those of the last record. -/
theorem finishSync_groups {finishedAt : Nat} {state : SyncState} {result : SyncResult}
    (finished : finishSync finishedAt state = (committed, result)) :
    committed.adGroups = state.tables.adGroups ∧
      committed.userAdGroups = state.tables.userAdGroups := by
  have same : (finishSync finishedAt state).1 = committed := by rw [finished]
  rw [← same]
  exact ⟨rfl, rfl⟩

/-! ## The outcome -/

/-- What a run on a snapshot makes of the tables, with the id of the row of each record. -/
structure Outcome (before : IdentityTables) (records : List ADUserRecord) (after : IdentityTables)
    (rowOf : ADUserRecord → Nat) : Prop where
  /-- No two records share a row. -/
  injective : Set.InjOn rowOf {record | record ∈ records}
  /-- The row holds what the record gives. -/
  carries : ∀ record ∈ records, ∃ row ∈ after.users, row.id = rowOf record ∧ Carries record row
  /-- Its memberships are the groups of the record. -/
  member : ∀ record ∈ records,
    MemberOfExactly after (rowOf record) (record.groups.map ADGroupRecord.sid)
  /-- There is one group for a SID. -/
  sid : (after.adGroups.map ADGroup.sid).Nodup
  /-- Other rows are disabled and otherwise as they were. -/
  others : ∀ user : User, (∀ record ∈ records, rowOf record ≠ user.id) →
    (user ∈ after.users ↔ ∃ old ∈ before.users, user = { old with enabled := false })
  /-- They keep their memberships. -/
  edges : ∀ edge : UserADGroup, (∀ record ∈ records, rowOf record ≠ edge.userId) →
    (edge ∈ after.userAdGroups ↔ edge ∈ before.userAdGroups)
  /-- No user is deleted. -/
  users : ∀ user ∈ before.users, ∃ same ∈ after.users, same.id = user.id
  /-- No group is deleted. -/
  adGroups : GroupsStay before after

/-- The id of the row that carries the GUID of a record. -/
def rowOf (tables : IdentityTables) (record : ADUserRecord) : Nat :=
  ((byGuid tables record).map User.id).getD 0

/-- A row that carries the GUID of a record is the row of the record. -/
theorem rowOf_eq (valid : tables.Valid fold) {record : ADUserRecord} {guid : String} {user : User}
    (given : record.adObjectGuid = some guid) (listed : user ∈ tables.users)
    (carried : user.adObjectGuid = record.adObjectGuid) : rowOf tables record = user.id := by
  rw [rowOf, (byGuid_eq_some valid given).mpr ⟨listed, carried⟩]
  rfl

/-- The records of a run have rows of their own, and the rows that no record was matched with are
the others. -/
theorem SyncProgress.outcome {records : List ADUserRecord} {state : SyncState} {finishedAt : Nat}
    {result : SyncResult} (progress : SyncProgress fold start records state)
    (accounts : ToldApart fold records) (nonempty : records ≠ [])
    (finished : finishSync finishedAt state = (committed, result)) :
    Outcome start records committed (rowOf committed) := by
  have valid : committed.Valid fold := by
    have kept := finishSync_valid finishedAt progress.kept.valid
    rwa [finished] at kept
  have mem := mem_finishSync (progress.seen_ne_nil nonempty) finished
  obtain ⟨groups, edges⟩ := finishSync_groups finished
  have row : ∀ record ∈ records, ∃ user ∈ state.tables.users, user ∈ committed.users ∧
      user.id ∈ state.seenUserIds ∧ Carries record user ∧ rowOf committed record = user.id ∧
      MemberOfExactly state.tables user.id (record.groups.map ADGroupRecord.sid) := by
    intro record listed
    obtain ⟨user, there, seen, carries, member⟩ := progress.rows record listed
    obtain ⟨guid, -, given⟩ := accounts.guid record listed
    have still := (mem user).mpr (.inl ⟨seen, there⟩)
    have own := rowOf_eq valid given still carries.adObjectGuid
    exact ⟨user, there, still, seen, carries, own, member⟩
  have unseen : ∀ id, (∀ record ∈ records, rowOf committed record ≠ id) →
      id ∉ state.seenUserIds := by
    intro id apart seen
    obtain ⟨record, listed, user, there, rfl, carries⟩ := progress.seen id seen
    obtain ⟨guid, -, given⟩ := accounts.guid record listed
    exact apart record listed
      (rowOf_eq valid given ((mem user).mpr (.inl ⟨seen, there⟩)) carries.adObjectGuid)
  refine
    { injective := ?_, carries := ?_, member := ?_, sid := valid.sid, others := ?_, edges := ?_
      users := ?_, adGroups := fun group listed => groups ▸ progress.groupRows group listed }
  · intro left leftListed right rightListed same
    obtain ⟨first, there, -, -, leftCarries, leftRow, -⟩ := row left leftListed
    obtain ⟨second, present, -, -, rightCarries, rightRow, -⟩ := row right rightListed
    have equal : first = second := List.inj_on_of_nodup_map progress.kept.valid.userId there present
      (leftRow.symm.trans (same.trans rightRow))
    refine List.inj_on_of_nodup_map accounts.distinctGuids leftListed rightListed ?_
    rw [← leftCarries.adObjectGuid, ← rightCarries.adObjectGuid, equal]
  · intro record listed
    obtain ⟨user, -, still, -, carries, same, -⟩ := row record listed
    exact ⟨user, still, same.symm, carries⟩
  · intro record listed
    obtain ⟨user, -, -, -, -, same, member⟩ := row record listed
    rw [same]
    exact ⟨groups ▸ member.row, by rw [groups, edges]; exact member.edge⟩
  · intro user apart
    have stranger := unseen user.id apart
    rw [mem]
    constructor
    · rintro (⟨seen, -⟩ | ⟨-, old, listed, rfl⟩)
      · exact absurd seen stranger
      · exact ⟨old, (progress.unseen old stranger).mp listed, rfl⟩
    · rintro ⟨old, listed, rfl⟩
      exact .inr ⟨stranger, old, (progress.unseen old stranger).mpr listed, rfl⟩
  · intro edge apart
    rw [edges, progress.edges edge (unseen edge.userId apart)]
  · intro user listed
    obtain ⟨same, there, id⟩ := progress.userRows user listed
    by_cases seen : same.id ∈ state.seenUserIds
    · exact ⟨same, (mem same).mpr (.inl ⟨seen, there⟩), id⟩
    · exact ⟨{ same with enabled := false }, (mem _).mpr (.inr ⟨seen, same, there, rfl⟩), id⟩

/-- A run that returns has the outcome. -/
theorem runSync_outcome {call : SyncCall} {result : SyncResult} (valid : tables.Valid fold)
    (accounts : ToldApart fold call.records) (nonempty : call.records ≠ [])
    (ran : runSync fold tables call = .ok (committed, result)) :
    Outcome tables call.records committed (rowOf committed) := by
  obtain ⟨last, progress, finished⟩ := runSync_progress valid accounts ran
  exact progress.outcome accounts nonempty finished

/-- A run without records changes nothing. -/
theorem runSync_nil {call : SyncCall} (empty : call.records = []) :
    ∃ result, runSync fold tables call = .ok (tables, result) := by
  refine ⟨_, runSync_eq_ok.mpr ⟨.initial call.startedAt tables, ?_, rfl⟩⟩
  rw [empty]
  rfl

/-! ## One sync of the database -/

/-- What one sync leaves behind: of a snapshot with records the outcome, with authorizations as
they were; of no records nothing; and nothing of a run that raises. -/
theorem syncDatabase_leaves {db : Database} {call : SyncCall} (valid : db.identity.Valid fold) :
    (∀ committed result, runSync fold db.identity call = .ok (committed, result) →
      Snapshot fold call.records → call.records ≠ [] →
        (∃ rowOf, Outcome db.identity call.records (syncDatabase fold db call).identity rowOf) ∧
          (syncDatabase fold db call).authorizations = db.authorizations) ∧
    (call.records = [] → syncDatabase fold db call = db) ∧
    (∀ error, runSync fold db.identity call = .error error → syncDatabase fold db call = db) := by
  refine ⟨fun committed result ran snapshot nonempty => ?_, fun empty => ?_, fun error raised => ?_⟩
  · simp only [syncDatabase, ran]
    exact ⟨⟨rowOf committed, runSync_outcome valid snapshot.toToldApart nonempty ran⟩, trivial⟩
  · obtain ⟨result, ran⟩ := @runSync_nil fold db.identity call empty
    simp only [syncDatabase, ran]
  · simp only [syncDatabase, raised]

/-- A record of an account with groups. -/
def member (samAccountName guid : String) (sids : List String) : ADUserRecord :=
  { account samAccountName guid with groups := sids.map fun sid => ⟨sid, sid, none⟩ }

/-- A database with these identity tables and nothing else. -/
def identityOnly (tables : IdentityTables) : Database := ⟨tables, [], [], [], [], ∅⟩

/-- One account was renamed and joined a group, the other left. -/
def renamedAndLeft : IdentityTables :=
  ⟨[accountRow 1 "jan.new" "g1", { accountRow 2 "eva" "g2" with enabled := false }],
    [⟨1, "S-1", "S-1", none, some 0⟩], [⟨1, 1⟩], 3, 2⟩

/-- The outcome of a sync that renames one account and misses the other. -/
theorem syncDatabase_leaves_renamed :
    ∃ rowOf, Outcome twoAccounts [member "jan.new" "g1" ["S-1"]] renamedAndLeft rowOf := by
  have ran : runSync .ascii twoAccounts (syncOf [member "jan.new" "g1" ["S-1"]]) =
      .ok (renamedAndLeft, ⟨1, 0, 1, 1, 1, 1, 1, 0, some 0⟩) := by decide +kernel
  have synced : syncDatabase .ascii (identityOnly twoAccounts)
      (syncOf [member "jan.new" "g1" ["S-1"]]) = identityOnly renamedAndLeft := by
    simp only [syncDatabase, identityOnly, ran]
  have left := (@syncDatabase_leaves .ascii (identityOnly twoAccounts)
    (syncOf [member "jan.new" "g1" ["S-1"]]) (reachable_valid twoAccounts_reachable)).1
  obtain ⟨outcome, -⟩ := left renamedAndLeft _ ran (by decide +kernel) (by decide)
  rw [synced] at outcome
  exact outcome

end TacacsWeb.Verif
