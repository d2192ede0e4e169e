import TacacsWeb.Verif.SyncOrder

/-!
# Syncing a snapshot again

A run leaves every record of its snapshot with a row that carries the record's GUID. A further run
on the same records, in any order, finds each of them by its GUID and its name free, so it returns,
inserts and disables nobody, and writes what the rows and memberships hold already. Only where two
records disagree about a group, another order can write a value that the first run passed over, and
that its column refuses.
-/

namespace TacacsWeb.Verif

open TacacsWeb.Library TacacsWeb.Model

variable {fold : CaseFolding} {start one two : IdentityTables}

/-! ## The second run -/

/-- Every record has a row that holds it. -/
def Stored (tables : IdentityTables) (records : List ADUserRecord) : Prop :=
  ∀ record ∈ records, ∃ row ∈ tables.users, Carries record row

/-- A run on tables that hold its records already. -/
structure Rerun (fold : CaseFolding) (one : IdentityTables) (done : List ADUserRecord)
    (state : SyncState) : Prop where
  /-- It has come this far. -/
  progress : SyncProgress fold one done state
  /-- The records have been matched with their own rows. -/
  seen : ∀ id, id ∈ state.seenUserIds ↔ ∃ record ∈ done, rowOf one record = id
  /-- Nothing has been inserted. -/
  inserted : state.result.usersInserted = 0

/-- The next record passes and is matched with its own row. -/
theorem Rerun.add (now : Nat) {done : List ADUserRecord} {state : SyncState} {record : ADUserRecord}
    {row : User} (valid : one.Valid fold) (rerun : Rerun fold one done state)
    (apart : ApartFrom fold done record) (listed : row ∈ one.users) (carries : Carries record row)
    (own : ∀ earlier ∈ done, rowOf one earlier ≠ rowOf one record)
    (distinct : (record.groups.map ADGroupRecord.sid).Nodup) (fits : RecordFits record)
    (groupsFit : NewGroupsFit state.groupsBySid record.groups) :
    ∃ next, recordStep fold now state record = some next ∧
      Rerun fold one (done ++ [record]) next := by
  obtain ⟨guid, nonempty, given⟩ := apart.guid
  have same : rowOf one record = row.id := rowOf_eq valid given listed carries.adObjectGuid
  have unseen : row.id ∉ state.seenUserIds := by
    intro seen
    obtain ⟨earlier, met, equal⟩ := (rerun.seen row.id).mp seen
    exact own earlier met (equal.trans same.symm)
  have there := (rerun.progress.unseen row unseen).mpr listed
  have free : NameFree fold state record := by
    intro user present name
    rw [← carries.samAccountName] at name
    obtain rfl := eq_of_lower rerun.progress.kept.valid present there name
    exact .inl carries.adObjectGuid
  obtain ⟨next, stepped⟩ := (@syncRecord_returns_iff fold now state record guid
    rerun.progress.kept nonempty given distinct).mpr ⟨⟨fits, free⟩, groupsFit⟩
  have passed : syncRecord fold now state record = .ok next := passes_eq_some.mp stepped
  have more := rerun.progress.add valid apart passed
  have chosen : choice fold one state.seenUserIds record = some row := by
    rw [choice, (byGuid_eq_some valid given).mpr ⟨listed, carries.adObjectGuid⟩,
      Option.filter_some_pos (by simpa [isUnseen] using unseen), Option.some_or]
  obtain ⟨middle, user, inserted, last, known, upserted, -, rfl⟩ := syncRecord_cases passed
  have written := (rerun.progress.upsertUser valid apart upserted).chosen
  rw [chosen] at written
  cases inserted with
  | true => cases written
  | false =>
    have id : user.id = row.id := (Option.some.inj written).symm
    refine ⟨_, stepped, more, fun other => ?_, rerun.inserted⟩
    rw [List.mem_cons, rerun.seen, id, ← same]
    simp [or_and_right, exists_or, eq_comm, or_comm]

/-- All records pass. -/
theorem Rerun.addAll (now : Nat) {done records : List ADUserRecord} {state : SyncState}
    (valid : one.Valid fold) (rerun : Rerun fold one done state)
    (snapshot : Snapshot fold (done ++ records)) (values : ValuesFit (done ++ records))
    (stored : Stored one records)
    (injective : Set.InjOn (rowOf one) {record | record ∈ done ++ records}) :
    ∃ last, (recordStep fold now).run state records = some last ∧
      Rerun fold one (done ++ records) last := by
  induction records generalizing state done with
  | nil => exact ⟨state, rfl, by rwa [List.append_nil]⟩
  | cons record records ih =>
    obtain ⟨row, listed, carries⟩ := stored record List.mem_cons_self
    have apart := snapshot.apart
    have own : ∀ earlier ∈ done, rowOf one earlier ≠ rowOf one record := by
      intro earlier met same
      have equal : earlier = record :=
        injective (List.mem_append_left _ met) (by simp) same
      exact apart.distinctGuid earlier met (congrArg _ equal)
    have groupsFit : NewGroupsFit state.groupsBySid record.groups :=
      (newGroupsFit_iff rerun.progress.groups).mpr (values.groups done record records rfl)
    obtain ⟨next, stepped, more⟩ := rerun.add now valid apart listed carries own
      (snapshot.distinctSids record (by simp)) (values.accounts record (by simp)) groupsFit
    have joined : done ++ record :: records = (done ++ [record]) ++ records := by
      rw [List.append_assoc, List.singleton_append]
    rw [joined] at snapshot values injective ⊢
    obtain ⟨last, ran, all⟩ := ih more snapshot values
      (fun later there => stored later (List.mem_cons_of_mem _ there)) injective
    exact ⟨last, Step.run_cons.mpr ⟨next, stepped, ran⟩, all⟩

/-- A run on tables that hold its records, where all other rows are disabled and the values fit,
returns and inserts and disables nobody. -/
theorem runSync_stored {call : SyncCall} (valid : one.Valid fold)
    (snapshot : Snapshot fold call.records) (values : ValuesFit call.records)
    (stored : Stored one call.records)
    (injective : Set.InjOn (rowOf one) {record | record ∈ call.records})
    (others : call.records ≠ [] → ∀ user ∈ one.users,
      (∀ record ∈ call.records, rowOf one record ≠ user.id) → user.enabled = false) :
    ∃ two result, runSync fold one call = .ok (two, result) ∧
      result.usersInserted = 0 ∧ result.usersDisabled = 0 := by
  have begun : Rerun fold one [] (.initial call.startedAt one) :=
    ⟨syncProgress_initial call.startedAt valid, fun id => by simp [SyncState.initial], rfl⟩
  have whole : Snapshot fold ([] ++ call.records) := snapshot
  obtain ⟨last, passed, rerun⟩ := begun.addAll call.now valid whole values stored injective
  refine ⟨_, _, runSync_eq_ok.mpr ⟨last, passed, rfl⟩, rerun.inserted, ?_⟩
  by_cases none : last.seenUserIds = []
  · simp [none]
  · simp only [if_neg none, List.length_eq_zero_iff, List.filter_eq_nil_iff]
    intro user listed stale
    simp only [isStale, Bool.and_eq_true, decide_eq_true_eq] at stale
    obtain ⟨unseen, enabled⟩ := stale
    have there := (rerun.progress.unseen user unseen).mp listed
    have some : call.records ≠ [] := by
      rintro empty
      refine none (List.eq_nil_iff_forall_not_mem.mpr fun id seen => ?_)
      obtain ⟨record, met, -⟩ := (rerun.seen id).mp seen
      rw [empty] at met
      cases met
    have disabled := others some user there fun record met same =>
      unseen ((rerun.seen user.id).mpr ⟨record, met, same⟩)
    rw [disabled] at enabled
    cases enabled

/-! ## What it leaves -/

/-- The row without the time of the last sync that saw it. -/
def unstamped (user : User) : User := { user with lastSeenInSyncAt := none }

/-- No two records of the list disagree about the DN or the name of a SID. -/
def SidAgreed (records : List ADUserRecord) (sid : String) : Prop :=
  ∀ left ∈ records.flatMap ADUserRecord.groups, ∀ right ∈ records.flatMap ADUserRecord.groups,
    left.sid = sid → right.sid = sid →
      left.distinguishedName = right.distinguishedName ∧ left.name = right.name

/-- The tables are the same but for the times of the last sync, and for the DN and name of groups
that the records disagree about. -/
structure Unchanged (records : List ADUserRecord) (one two : IdentityTables) : Prop where
  /-- The users. -/
  users : ∀ user, user ∈ two.users.map unstamped ↔ user ∈ one.users.map unstamped
  /-- The groups, by id and SID. -/
  adGroups : ∀ key, key ∈ groupKeys two ↔ key ∈ groupKeys one
  /-- Their DNs and names. -/
  names : ∀ group ∈ one.adGroups, ∀ same ∈ two.adGroups, same.id = group.id →
    SidAgreed records group.sid →
      same.distinguishedName = group.distinguishedName ∧ same.name = group.name
  /-- The memberships. -/
  edges : ∀ edge, edge ∈ two.userAdGroups ↔ edge ∈ one.userAdGroups

/-- Tables are the same as themselves. -/
theorem Unchanged.refl {records : List ADUserRecord} (valid : one.Valid fold) :
    Unchanged records one one where
  users _ := Iff.rfl
  adGroups _ := Iff.rfl
  names group listed same there id _ := by
    rw [List.inj_on_of_nodup_map valid.adGroupId there listed id]
    exact ⟨rfl, rfl⟩
  edges _ := Iff.rfl

/-- Two rows with one id that hold one record are the same but for the time. -/
theorem Carries.unstamped_eq {record : ADUserRecord} {user other : User}
    (first : Carries record user) (second : Carries record other) (id : user.id = other.id) :
    unstamped user = unstamped other := by
  simp only [unstamped, id, first.samAccountName, first.adObjectGuid, first.distinguishedName,
    first.upn, first.displayName, first.enabled, second.samAccountName, second.adObjectGuid,
    second.distinguishedName, second.upn, second.displayName, second.enabled]

/-- A record whose GUID a row carries has that row after a run on a list of such records. -/
theorem rowOf_again {call : SyncCall} {result : SyncResult} {record : ADUserRecord}
    (valid : one.Valid fold) (accounts : ToldApart fold call.records)
    (stored : Stored one call.records) (ran : runSync fold one call = .ok (two, result))
    (listed : record ∈ call.records) : rowOf two record = rowOf one record := by
  have takes := runSync_takes valid accounts ran
  have held : ∀ other ∈ call.records, byGuid one other ≠ none := by
    intro other there none
    obtain ⟨row, present, carries⟩ := stored other there
    obtain ⟨guid, -, given⟩ := accounts.guid other there
    rw [(byGuid_eq_some valid given).mpr ⟨present, carries.adObjectGuid⟩] at none
    cases none
  have kept : ¬Displaced (byGuid one) (byName fold one) call.records record := by
    intro displaced
    obtain ⟨other, there, none⟩ := displaced.exists_unheld listed
    exact held other there none
  rw [displaced_iff accounts.exclusive takes listed] at kept
  push Not at kept
  obtain ⟨row, own, taken⟩ := kept
  obtain ⟨-, id⟩ := (find_key_eq_some_iff valid.userId).mp taken
  rw [← id, rowOf, own]
  rfl

/-- What a run makes of a group: it holds what a record gave, or no record gave its SID and it is
as it was. -/
theorem runSync_written {call : SyncCall} {result : SyncResult} (valid : start.Valid fold)
    (accounts : ToldApart fold call.records)
    (ran : runSync fold start call = .ok (one, result)) :
    ∀ group ∈ one.adGroups,
      (∃ record ∈ call.records.flatMap ADUserRecord.groups, FromRecord record group) ∨
        group ∈ start.adGroups ∧
          ∀ record ∈ call.records.flatMap ADUserRecord.groups, record.sid ≠ group.sid := by
  obtain ⟨last, progress, finished⟩ := runSync_progress valid accounts ran
  obtain ⟨groups, -⟩ := finishSync_groups finished
  exact fun group listed => progress.groups.written group (groups ▸ listed)

section SecondRun

variable {records other : List ADUserRecord}

/-- The second of two runs on the same records leaves the rows of no record as they are. -/
theorem others_again (perm : records.Perm other)
    (outcomeOne : Outcome start records one (rowOf one))
    (outcomeTwo : Outcome one other two (rowOf two))
    (rows : ∀ record ∈ other, rowOf two record = rowOf one record) {user : User}
    (apart : ∀ record ∈ records, rowOf one record ≠ user.id) :
    user ∈ two.users ↔ user ∈ one.users := by
  have apartTwo : ∀ record ∈ other, rowOf two record ≠ user.id := by
    intro record listed
    rw [rows record listed]
    exact apart record (perm.mem_iff.mpr listed)
  rw [outcomeTwo.others user apartTwo]
  constructor
  · rintro ⟨old, listed, rfl⟩
    obtain ⟨before, -, rfl⟩ := (outcomeOne.others old apart).mp listed
    exact listed
  · intro listed
    obtain ⟨before, -, rfl⟩ := (outcomeOne.others user apart).mp listed
    exact ⟨_, listed, rfl⟩

/-- A second run leaves the users as they are. -/
theorem users_again (perm : records.Perm other) (validOne : one.Valid fold)
    (validTwo : two.Valid fold) (outcomeOne : Outcome start records one (rowOf one))
    (outcomeTwo : Outcome one other two (rowOf two))
    (rows : ∀ record ∈ other, rowOf two record = rowOf one record) (user : User) :
    user ∈ two.users.map unstamped ↔ user ∈ one.users.map unstamped := by
  have own : ∀ record ∈ records, ∃ first ∈ one.users, ∃ second ∈ two.users,
      first.id = rowOf one record ∧ second.id = rowOf one record ∧
        unstamped first = unstamped second := by
    intro record listed
    have also := perm.mem_iff.mp listed
    obtain ⟨first, there, firstId, firstCarries⟩ := outcomeOne.carries record listed
    obtain ⟨second, present, secondId, secondCarries⟩ := outcomeTwo.carries record also
    rw [rows record also] at secondId
    exact ⟨first, there, second, present, firstId, secondId,
      firstCarries.unstamped_eq secondCarries (firstId.trans secondId.symm)⟩
  rw [List.mem_map, List.mem_map]
  constructor
  · rintro ⟨row, listed, rfl⟩
    by_cases held : ∃ record ∈ records, rowOf one record = row.id
    · obtain ⟨record, given, same⟩ := held
      obtain ⟨first, there, second, present, -, secondId, equal⟩ := own record given
      obtain rfl := List.inj_on_of_nodup_map validTwo.userId present listed (secondId.trans same)
      exact ⟨first, there, equal⟩
    · have apart : ∀ record ∈ records, rowOf one record ≠ row.id :=
        fun record given same => held ⟨record, given, same⟩
      exact ⟨row, (others_again perm outcomeOne outcomeTwo rows apart).mp listed, rfl⟩
  · rintro ⟨row, listed, rfl⟩
    by_cases held : ∃ record ∈ records, rowOf one record = row.id
    · obtain ⟨record, given, same⟩ := held
      obtain ⟨first, there, second, present, firstId, -, equal⟩ := own record given
      obtain rfl := List.inj_on_of_nodup_map validOne.userId there listed (firstId.trans same)
      exact ⟨second, present, equal.symm⟩
    · have apart : ∀ record ∈ records, rowOf one record ≠ row.id :=
        fun record given same => held ⟨record, given, same⟩
      exact ⟨row, (others_again perm outcomeOne outcomeTwo rows apart).mpr listed, rfl⟩

/-- A second run leaves the memberships as they are. -/
theorem edges_again (perm : records.Perm other) (validTwo : two.Valid fold)
    (outcomeOne : Outcome start records one (rowOf one))
    (outcomeTwo : Outcome one other two (rowOf two))
    (rows : ∀ record ∈ other, rowOf two record = rowOf one record) (edge : UserADGroup) :
    edge ∈ two.userAdGroups ↔ edge ∈ one.userAdGroups := by
  by_cases held : ∃ record ∈ records, rowOf one record = edge.userId
  · obtain ⟨record, given, same⟩ := held
    have also := perm.mem_iff.mp given
    have first := outcomeOne.member record given
    have second := outcomeTwo.member record also
    rw [rows record also, same] at second
    rw [same] at first
    have left := first.edge edge.adGroupId
    have right := second.edge edge.adGroupId
    rw [sidRows_frame validTwo outcomeTwo.adGroups first.row] at right
    exact right.trans left.symm
  · refine outcomeTwo.edges edge fun record listed => ?_
    rw [rows record listed]
    exact fun same => held ⟨record, perm.mem_iff.mpr listed, same⟩

/-- A second run adds no group. -/
theorem adGroups_again {again : SyncCall} {counters : SyncResult}
    (perm : records.Perm again.records) (validOne : one.Valid fold)
    (accounts : ToldApart fold again.records) (outcomeOne : Outcome start records one (rowOf one))
    (outcomeTwo : Outcome one again.records two (rowOf two))
    (ran : runSync fold one again = .ok (two, counters)) (key : Nat × String) :
    key ∈ groupKeys two ↔ key ∈ groupKeys one := by
  have validTwo := runSync_valid validOne ran
  simp only [groupKeys, List.mem_map]
  constructor
  · rintro ⟨group, listed, rfl⟩
    rcases runSync_written validOne accounts ran group listed with
      ⟨record, given, values⟩ | ⟨before, -⟩
    · -- The SID is one of a record, so the first run has left a group with it.
      obtain ⟨account, there, member⟩ := List.mem_flatMap.mp given
      obtain ⟨old, before, sid⟩ := (outcomeOne.member account (perm.mem_iff.mpr there)).row
        record.sid (List.mem_map_of_mem member)
      obtain ⟨same, still, sameId, sameSid⟩ := outcomeTwo.adGroups old before
      have equal : same = group := List.inj_on_of_nodup_map validTwo.sid still listed
        (sameSid.trans (sid.trans values.sid.symm))
      exact ⟨old, before, by rw [← equal, sameId, sameSid]⟩
    · exact ⟨group, before, rfl⟩
  · rintro ⟨group, listed, rfl⟩
    obtain ⟨same, still, sameId, sameSid⟩ := outcomeTwo.adGroups group listed
    exact ⟨same, still, by rw [sameId, sameSid]⟩

end SecondRun

/-- A second run leaves the DN and name of every group that the records agree about. -/
theorem names_again {call again : SyncCall} {result counters : SyncResult}
    (valid : start.Valid fold) (accounts : ToldApart fold call.records)
    (perm : call.records.Perm again.records) (ran : runSync fold start call = .ok (one, result))
    (ranAgain : runSync fold one again = .ok (two, counters)) (stay : GroupsStay one two)
    {group same : ADGroup} (listed : group ∈ one.adGroups) (there : same ∈ two.adGroups)
    (id : same.id = group.id) (agreed : SidAgreed call.records group.sid) :
    same.distinguishedName = group.distinguishedName ∧ same.name = group.name := by
  have validOne := runSync_valid valid ran
  have validTwo := runSync_valid validOne ranAgain
  have sid : same.sid = group.sid := by
    obtain ⟨kept, still, keptId, keptSid⟩ := stay group listed
    rw [List.inj_on_of_nodup_map validTwo.adGroupId there still (id.trans keptId.symm), keptSid]
  rcases runSync_written validOne (accounts.perm perm) ranAgain same there with
    ⟨second, given, values⟩ | ⟨before, -⟩
  · have also : second ∈ call.records.flatMap ADUserRecord.groups := by
      obtain ⟨account, present, member⟩ := List.mem_flatMap.mp given
      exact List.mem_flatMap.mpr ⟨account, perm.mem_iff.mpr present, member⟩
    have named : second.sid = group.sid := values.sid.symm.trans sid
    rcases runSync_written valid accounts ran group listed with
      ⟨first, firstGiven, firstValues⟩ | ⟨-, unmet⟩
    · have both := agreed second also first firstGiven named firstValues.sid.symm
      rw [values.distinguishedName, values.name, firstValues.distinguishedName, firstValues.name]
      exact both
    · exact absurd named (unmet second also)
  · rw [List.inj_on_of_nodup_map validOne.adGroupId before listed id]
    exact ⟨rfl, rfl⟩

/-- A snapshot is consistent. -/
theorem Snapshot.consistent {records : List ADUserRecord} (snapshot : Snapshot fold records) :
    Consistent fold records where
  guid := snapshot.guid
  distinctGuids := snapshot.distinctGuids
  distinctNames := by
    refine List.pairwise_map.mpr (snapshot.distinctNames.imp fun {left right} apart same => ?_)
    have listed : fold.sql left.samAccountName ∈ lowered fold right.samAccountName := by
      rw [same]
      exact List.mem_cons_self
    exact apart List.mem_cons_self listed
  distinctSids := snapshot.distinctSids

/-- A second run on the records of a run, in the same order or in any in which the groups fit,
returns, inserts and disables nobody, and leaves the tables as they are. -/
theorem runSync_again {call again : SyncCall} {result : SyncResult} (valid : start.Valid fold)
    (snapshot : Snapshot fold call.records) (perm : call.records.Perm again.records)
    (groupsFit : again.records = call.records ∨ GroupsFit again.records)
    (ran : runSync fold start call = .ok (one, result)) :
    ∃ two counters, runSync fold one again = .ok (two, counters) ∧
      counters.usersInserted = 0 ∧ counters.usersDisabled = 0 ∧
      Unchanged call.records one two := by
  have validOne := runSync_valid valid ran
  have repeated : Snapshot fold again.records :=
    ⟨snapshot.toToldApart.perm perm,
      fun record listed => snapshot.distinctSids record (perm.mem_iff.mpr listed)⟩
  have values : ValuesFit again.records := by
    have first := ((runSync_returns_iff valid snapshot.consistent).mp ⟨one, result, ran⟩).1
    refine ⟨fun record listed => first.accounts record (perm.mem_iff.mpr listed), ?_⟩
    rcases groupsFit with same | fits
    · rw [same]
      exact first.groups
    · exact fits
  by_cases empty : call.records = []
  · have none : again.records = [] := List.perm_nil.mp (empty ▸ perm.symm)
    obtain ⟨two, counters, ranAgain, inserted, disabled⟩ :=
      runSync_stored validOne repeated values (by simp [none, Stored]) (by simp [none, Set.InjOn])
        (absurd none)
    obtain ⟨others, unchanged⟩ := @runSync_nil fold one again none
    obtain rfl : one = two := congrArg Prod.fst (Except.ok.inj (unchanged.symm.trans ranAgain))
    exact ⟨one, counters, ranAgain, inserted, disabled, .refl validOne⟩
  · have some : again.records ≠ [] := fun none => empty (List.perm_nil.mp (none ▸ perm))
    have outcomeOne := runSync_outcome valid snapshot.toToldApart empty ran
    have stored : Stored one again.records := by
      intro record listed
      obtain ⟨row, there, -, carries⟩ := outcomeOne.carries record (perm.mem_iff.mpr listed)
      exact ⟨row, there, carries⟩
    have injective : Set.InjOn (rowOf one) {record | record ∈ again.records} :=
      fun left leftListed right rightListed => outcomeOne.injective
        (perm.mem_iff.mpr leftListed) (perm.mem_iff.mpr rightListed)
    have off : ∀ user ∈ one.users,
        (∀ record ∈ again.records, rowOf one record ≠ user.id) → user.enabled = false := by
      intro user listed apart
      obtain ⟨old, -, rfl⟩ := (outcomeOne.others user fun record given =>
        apart record (perm.mem_iff.mp given)).mp listed
      rfl
    obtain ⟨two, counters, ranAgain, inserted, disabled⟩ :=
      runSync_stored validOne repeated values stored injective fun _ => off
    have validTwo := runSync_valid validOne ranAgain
    have outcomeTwo := runSync_outcome validOne repeated.toToldApart some ranAgain
    have rows : ∀ record ∈ again.records, rowOf two record = rowOf one record :=
      fun record listed => rowOf_again validOne repeated.toToldApart stored ranAgain listed
    refine ⟨two, counters, ranAgain, inserted, disabled,
      { users := users_again perm validOne validTwo outcomeOne outcomeTwo rows
        adGroups := adGroups_again perm validOne repeated.toToldApart outcomeOne outcomeTwo ranAgain
        names := ?_
        edges := edges_again perm validTwo outcomeOne outcomeTwo rows }⟩
    intro group listed same there id agreed
    exact names_again valid snapshot.toToldApart perm ran ranAgain outcomeTwo.adGroups listed there
      id agreed

/-- A run that renamed an account and disabled another one, and the same run once more. -/
theorem runSync_again_renamed :
    ∃ two counters,
      runSync .ascii renamedAndLeft (syncOf [member "jan.new" "g1" ["S-1"]]) =
        .ok (two, counters) ∧
      counters.usersInserted = 0 ∧ counters.usersDisabled = 0 ∧
      Unchanged [member "jan.new" "g1" ["S-1"]] renamedAndLeft two :=
  @runSync_again .ascii twoAccounts renamedAndLeft (syncOf [member "jan.new" "g1" ["S-1"]])
    (syncOf [member "jan.new" "g1" ["S-1"]]) ⟨1, 0, 1, 1, 1, 1, 1, 0, some 0⟩
    (reachable_valid twoAccounts_reachable) (by decide +kernel) (.refl _) (.inl rfl)
    (by decide +kernel)

/-- A text that is one character too long for its column does not fit. -/
theorem textFits_longer (width : Nat) (character : Char) :
    textFits (some width) (some (String.ofList (List.replicate (width + 1) character))) =
      false := by
  have long : ¬ width + 1 ≤ width := by omega
  simp [textFits, long]

/-- A DN that is one character too long for its column. -/
def longName : String := String.ofList (List.replicate (1024 + 1) 'x')

/-- The column `dn` does not take the long DN. -/
theorem longName_refused : textFits (some 1024) (some longName) = false :=
  textFits_longer 1024 'x'

/-- An account in a group. -/
def inOps : ADUserRecord := { account "jan" "g1" with groups := [⟨"S-1", "CN=ops", none⟩] }

/-- An account whose record disagrees about the DN of the group. -/
def inLongOps : ADUserRecord := { account "eva" "g2" with groups := [⟨"S-1", longName, none⟩] }

/-- A run that meets the two records in this order writes values that fit. -/
theorem disputed_valuesFit : ValuesFit [inOps, inLongOps] := by
  constructor
  · intro record listed
    unfold RecordFits
    rcases List.mem_cons.mp listed with rfl | rest
    · decide +kernel
    · obtain rfl := List.mem_singleton.mp rest
      decide +kernel
  · intro done record later split group given unmet
    rcases List.append_eq_cons_iff.mp split.symm with ⟨-, rest⟩ | ⟨before, rfl, rest⟩
    · -- The group of the first record is written and fits.
      obtain ⟨rfl, -⟩ := List.cons_eq_cons.mp rest
      obtain rfl := List.mem_singleton.mp given
      exact ⟨by decide +kernel, by decide +kernel, by decide +kernel⟩
    · have last : record = inLongOps := List.mem_singleton.mp (rest ▸ by simp)
      rw [last] at given
      obtain rfl := List.mem_singleton.mp given
      exact absurd rfl (unmet inOps List.mem_cons_self ⟨"S-1", "CN=ops", none⟩ List.mem_cons_self)

/-- A second run in another order meets a DN that the first one passed over. -/
theorem disputedGroup_not_again :
    ¬ ∀ (start one : IdentityTables) (call again : SyncCall) (result : SyncResult),
      start.Valid .ascii → Snapshot .ascii call.records → call.records.Perm again.records →
        runSync .ascii start call = .ok (one, result) →
          ∃ two counters, runSync .ascii one again = .ok (two, counters) := by
  intro claimed
  have valid : IdentityTables.empty.Valid .ascii := reachable_valid .empty
  have snapshot : Snapshot .ascii [inOps, inLongOps] := by decide +kernel
  have reordered : Snapshot .ascii [inLongOps, inOps] := by decide +kernel
  have free : NamesFree .ascii .empty [inOps, inLongOps] :=
    fun _ _ _ _ user listed => absurd listed List.not_mem_nil
  obtain ⟨one, result, ran⟩ := (@runSync_returns_iff _ _ (syncOf [inOps, inLongOps]) valid
    snapshot.consistent).mpr ⟨disputed_valuesFit, free⟩
  have returned := claimed .empty one (syncOf [inOps, inLongOps]) (syncOf [inLongOps, inOps])
    result valid snapshot (.swap _ _ _) ran
  have values := ((runSync_returns_iff (runSync_valid valid ran) reordered.consistent).mp
    returned).1
  have given : (⟨"S-1", longName, none⟩ : ADGroupRecord) ∈ inLongOps.groups := by
    unfold inLongOps
    exact List.mem_singleton_self _
  have fits := values.groups [] inLongOps [inOps] rfl _ given
    fun _ met => absurd met List.not_mem_nil
  have dn : textFits (some 1024) (some longName) = true := fits.2.1
  rw [longName_refused] at dn
  cases dn

end TacacsWeb.Verif
