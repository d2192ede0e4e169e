import TacacsWeb.Verif.Directory
import TacacsWeb.Verif.SyncGroups

/-!
# How far a sync has come

Between two records of a run, every record before has its own row, and every row that no record
was matched with is as it was at the start. So the row that the next record is matched with can
be read off the tables at the start: the row of its GUID if no record has taken it, else the row
of its name if no record has taken that one.
-/

namespace TacacsWeb.Verif

open TacacsWeb.Library TacacsWeb.Model

variable {fold : CaseFolding} {start tables after : IdentityTables} {now : Nat}

/-! ## Records apart -/

/-- A record of another GUID and another name than those met so far. -/
structure ApartFrom (fold : CaseFolding) (done : List ADUserRecord) (record : ADUserRecord) :
    Prop where
  /-- The GUID is given. -/
  guid : ∃ guid, guid ≠ "" ∧ record.adObjectGuid = some guid
  /-- No other record has it. -/
  distinctGuid : ∀ earlier ∈ done, earlier.adObjectGuid ≠ record.adObjectGuid
  /-- No other record has the name. -/
  distinctName : ∀ earlier ∈ done, NamesApart fold earlier record

/-- A record is apart from those before it. -/
theorem ToldApart.apart {done rest : List ADUserRecord} {record : ADUserRecord}
    (accounts : ToldApart fold (done ++ record :: rest)) : ApartFrom fold done record := by
  refine ⟨accounts.guid record (by simp), fun earlier listed => ?_, fun earlier listed => ?_⟩
  · have distinct := List.pairwise_map.mp accounts.distinctGuids
    exact (List.pairwise_append.mp distinct).2.2 earlier listed record List.mem_cons_self
  · exact (List.pairwise_append.mp accounts.distinctNames).2.2 earlier listed record
      List.mem_cons_self

/-! ## The row of a record -/

/-- The row holds what the record gives, and is enabled. -/
structure Carries (record : ADUserRecord) (user : User) : Prop where
  /-- The name. -/
  samAccountName : user.samAccountName = record.samAccountName
  /-- The GUID. -/
  adObjectGuid : user.adObjectGuid = record.adObjectGuid
  /-- The DN. -/
  distinguishedName : user.distinguishedName = record.distinguishedName
  /-- The UPN. -/
  upn : user.upn = record.upn
  /-- The display name. -/
  displayName : user.displayName = record.displayName
  /-- The flag. -/
  enabled : user.enabled = true

/-- The row that carries the GUID of a record. -/
def byGuid (tables : IdentityTables) (record : ADUserRecord) : Option User :=
  tables.users.find? fun user => user.adObjectGuid = record.adObjectGuid

/-- The row that the name of a record falls back to. -/
def byName (fold : CaseFolding) (tables : IdentityTables) (record : ADUserRecord) : Option User :=
  tables.users.find? fun user => fold.sql user.samAccountName = fold.python record.samAccountName

/-- A row that no record has been matched with. -/
def isUnseen (seenUserIds : List Nat) (user : User) : Bool := user.id ∉ seenUserIds

/-- The row that a record takes: by its GUID, else by its name, unless another record has it. -/
def choice (fold : CaseFolding) (start : IdentityTables) (seenUserIds : List Nat)
    (record : ADUserRecord) : Option User :=
  ((byGuid start record).filter (isUnseen seenUserIds)).or
    ((byName fold start record).filter (isUnseen seenUserIds))

/-- The row of a GUID is the only one that carries it. -/
theorem byGuid_eq_some (valid : start.Valid fold) {record : ADUserRecord} {guid : String}
    {user : User} (given : record.adObjectGuid = some guid) :
    byGuid start record = some user ↔
      user ∈ start.users ∧ user.adObjectGuid = record.adObjectGuid := by
  rw [byGuid, find_eq_some_iff, decide_eq_true_eq]
  intro left leftListed right rightListed leftCarries rightCarries
  exact eq_of_guid valid leftListed rightListed ((of_decide_eq_true leftCarries).trans given)
    ((of_decide_eq_true rightCarries).trans given)

/-- The row of a name is the only one that has it in some casing. -/
theorem byName_eq_some (valid : start.Valid fold) {record : ADUserRecord} {user : User} :
    byName fold start record = some user ↔
      user ∈ start.users ∧
        fold.sql user.samAccountName = fold.python record.samAccountName := by
  exact find_key_eq_some_iff valid.lowerSamAccountName

/-- A row that is taken was there and free. -/
theorem choice_unseen {seenUserIds : List Nat} {record : ADUserRecord} {user : User}
    (chosen : choice fold start seenUserIds record = some user) :
    user ∈ start.users ∧ user.id ∉ seenUserIds := by
  rcases Option.or_eq_some_iff.mp chosen with taken | ⟨-, taken⟩
  · obtain ⟨found, free⟩ := Option.filter_eq_some_iff.mp taken
    exact ⟨List.mem_of_find?_eq_some found, by simpa [isUnseen] using free⟩
  · obtain ⟨found, free⟩ := Option.filter_eq_some_iff.mp taken
    exact ⟨List.mem_of_find?_eq_some found, by simpa [isUnseen] using free⟩

/-! ## Between two records -/

/-- What holds after the records met so far, in a run from some tables. -/
structure SyncProgress (fold : CaseFolding) (start : IdentityTables) (done : List ADUserRecord)
    (state : SyncState) : Prop where
  /-- The tables meet their constraints. -/
  kept : SyncInvariant fold state
  /-- The groups of the records are written. -/
  groups : GroupsWritten start (done.flatMap ADUserRecord.groups)
    (state.tables, state.groupsBySid)
  /-- No group is lost. -/
  groupRows : GroupsStay start state.tables
  /-- Rows that no record was matched with are as they were. -/
  unseen : ∀ user : User, user.id ∉ state.seenUserIds →
    (user ∈ state.tables.users ↔ user ∈ start.users)
  /-- The memberships of other accounts are untouched. -/
  edges : ∀ edge : UserADGroup, edge.userId ∉ state.seenUserIds →
    (edge ∈ state.tables.userAdGroups ↔ edge ∈ start.userAdGroups)
  /-- No row is lost. -/
  userRows : ∀ user ∈ start.users, ∃ same ∈ state.tables.users, same.id = user.id
  /-- The sequence only grows. -/
  sequence : start.nextUserId ≤ state.tables.nextUserId
  /-- Every record has its row. -/
  rows : ∀ record ∈ done, ∃ row ∈ state.tables.users, row.id ∈ state.seenUserIds ∧
    Carries record row ∧
    MemberOfExactly state.tables row.id (record.groups.map ADGroupRecord.sid)
  /-- Every row that was matched is that of a record. -/
  seen : ∀ id ∈ state.seenUserIds, ∃ record ∈ done, ∃ row ∈ state.tables.users,
    row.id = id ∧ Carries record row

/-- Nothing has been done at the start of a run. -/
theorem syncProgress_initial (startedAt : Nat) (valid : start.Valid fold) :
    SyncProgress fold start [] (.initial startedAt start) where
  kept := syncInvariant_initial startedAt valid
  groups := ⟨fun sid => by simp [SyncState.initial], fun row listed => .inr ⟨listed, nofun⟩⟩
  groupRows := fun group listed => ⟨group, listed, rfl, rfl⟩
  unseen := fun _ _ => Iff.rfl
  edges := fun _ _ => Iff.rfl
  userRows := fun user listed => ⟨user, listed, rfl⟩
  sequence := Nat.le_refl _
  rows := nofun
  seen := nofun

/-- A row of the tables carries the GUID of a record only when no record has taken it: the
records met so far have other GUIDs. -/
theorem SyncProgress.guid_unseen {done : List ADUserRecord} {state : SyncState}
    {record : ADUserRecord} {user : User} (progress : SyncProgress fold start done state)
    (apart : ApartFrom fold done record) (listed : user ∈ state.tables.users)
    (carried : user.adObjectGuid = record.adObjectGuid) :
    user.id ∉ state.seenUserIds ∧ user ∈ start.users := by
  have unseen : user.id ∉ state.seenUserIds := by
    intro seen
    obtain ⟨earlier, met, row, there, same, carries⟩ := progress.seen user.id seen
    have equal : row = user := List.inj_on_of_nodup_map progress.kept.valid.userId there listed same
    exact apart.distinctGuid earlier met
      (carries.adObjectGuid.symm.trans (equal ▸ carried))
  exact ⟨unseen, (progress.unseen user unseen).mp listed⟩

/-- A row with the name of a record has not been seen: the records met so far have other names. -/
theorem SyncProgress.name_unseen {done : List ADUserRecord} {state : SyncState}
    {record : ADUserRecord} {user : User} (progress : SyncProgress fold start done state)
    (apart : ApartFrom fold done record) (listed : user ∈ state.tables.users)
    (same : fold.sql user.samAccountName = fold.python record.samAccountName) :
    user.id ∉ state.seenUserIds ∧ user ∈ start.users := by
  have unseen : user.id ∉ state.seenUserIds := by
    intro seen
    obtain ⟨earlier, met, row, there, id, carries⟩ := progress.seen user.id seen
    have equal : row = user := List.inj_on_of_nodup_map progress.kept.valid.userId there listed id
    rw [← equal, carries.samAccountName] at same
    refine apart.distinctName earlier met (a := fold.python record.samAccountName) ?_ ?_
    · rw [← same]
      exact List.mem_cons_self
    · exact List.mem_cons_of_mem _ List.mem_cons_self
  exact ⟨unseen, (progress.unseen user unseen).mp listed⟩

/-- The row that the next record is matched with is the one it takes. -/
theorem SyncProgress.findExistingUser_eq {done : List ADUserRecord} {state : SyncState}
    {record : ADUserRecord} (valid : start.Valid fold)
    (progress : SyncProgress fold start done state) (apart : ApartFrom fold done record) :
    findExistingUser fold state.tables.users record =
      .ok (choice fold start state.seenUserIds record) := by
  obtain ⟨guid, nonempty, given⟩ := apart.guid
  have truthy := guid_of_ne nonempty given
  cases own : (byGuid start record).filter (isUnseen state.seenUserIds) with
  | some user =>
    obtain ⟨found, free⟩ := Option.filter_eq_some_iff.mp own
    obtain ⟨listed, carried⟩ := (byGuid_eq_some valid given).mp found
    have unseen : user.id ∉ state.seenUserIds := by simpa [isUnseen] using free
    rw [choice, own, Option.some_or]
    exact findExistingUser_byGuid progress.kept.valid truthy
      ((progress.unseen user unseen).mpr listed) (carried.trans given)
  | none =>
    have missing : ∀ other, record.guid = some other →
        ∀ user ∈ state.tables.users, user.adObjectGuid ≠ some other := by
      intro other same user listed carried
      obtain rfl := Option.some.inj (truthy.symm.trans same)
      obtain ⟨unseen, there⟩ := progress.guid_unseen apart listed (carried.trans given.symm)
      have found := (byGuid_eq_some valid given).mpr ⟨there, carried.trans given.symm⟩
      rw [found, Option.filter_some_pos (by simpa [isUnseen] using unseen)] at own
      cases own
    rw [choice, own, Option.none_or, findExistingUser_byName fold missing]
    congr 1
    cases named : (byName fold start record).filter (isUnseen state.seenUserIds) with
    | some user =>
      obtain ⟨found, free⟩ := Option.filter_eq_some_iff.mp named
      obtain ⟨listed, same⟩ := (byName_eq_some valid).mp found
      have unseen : user.id ∉ state.seenUserIds := by simpa [isUnseen] using free
      have there := (progress.unseen user unseen).mpr listed
      cases chosen : findByName fold state.tables.users record with
      | none => exact absurd same (findByName_none chosen user there)
      | some other =>
        obtain ⟨present, equal⟩ := findByName_some chosen
        rw [eq_of_lower progress.kept.valid present there (equal.trans same.symm)]
    | none =>
      cases chosen : findByName fold state.tables.users record with
      | none => rfl
      | some other =>
        obtain ⟨present, equal⟩ := findByName_some chosen
        obtain ⟨unseen, there⟩ := progress.name_unseen apart present equal
        have found := (byName_eq_some valid).mpr ⟨there, equal⟩
        rw [found, Option.filter_some_pos (by simpa [isUnseen] using unseen)] at named
        cases named

/-! ## One more record -/

/-- What writing the row of the next record leaves. -/
structure RowWritten (fold : CaseFolding) (start : IdentityTables) (state : SyncState)
    (record : ADUserRecord) (after : IdentityTables) (user : User) (inserted : Bool) : Prop where
  /-- The constraints hold. -/
  valid : after.Valid fold
  /-- The row is there. -/
  row : user ∈ after.users
  /-- It holds the record. -/
  carries : Carries record user
  /-- No record had it before. -/
  unseen : user.id ∉ state.seenUserIds
  /-- It is the row that the record takes, or a new one. -/
  chosen : (choice fold start state.seenUserIds record).map User.id =
    if inserted then none else some user.id
  /-- Other rows stay as they are. -/
  others : ∀ other : User, other.id ≠ user.id → (other ∈ after.users ↔ other ∈ state.tables.users)
  /-- No row is lost. -/
  userRows : ∀ other ∈ state.tables.users, ∃ same ∈ after.users, same.id = other.id
  /-- A new row is numbered from the sequence. -/
  numbered : inserted = true → user.id = state.tables.nextUserId
  /-- The sequence moves with it. -/
  nextUserId : after.nextUserId = state.tables.nextUserId + if inserted then 1 else 0
  /-- The groups stay. -/
  adGroups : after.adGroups = state.tables.adGroups
  /-- The memberships stay. -/
  userAdGroups : after.userAdGroups = state.tables.userAdGroups

/-- A row that was matched is numbered below the sequence. -/
theorem SyncProgress.seen_lt {done : List ADUserRecord} {state : SyncState}
    (progress : SyncProgress fold start done state) {id : Nat} (seen : id ∈ state.seenUserIds) :
    id < state.tables.nextUserId := by
  obtain ⟨-, -, row, listed, rfl, -⟩ := progress.seen id seen
  exact progress.kept.valid.userSequence row listed

/-- Writing the row of the next record. -/
theorem SyncProgress.upsertUser {done : List ADUserRecord} {state : SyncState}
    {record : ADUserRecord} {user : User} {inserted : Bool} (valid : start.Valid fold)
    (progress : SyncProgress fold start done state) (apart : ApartFrom fold done record)
    (written : upsertUser fold state.tables record now = .ok (after, user, inserted)) :
    RowWritten fold start state record after user inserted := by
  obtain ⟨guid, nonempty, given⟩ := apart.guid
  have matched := progress.findExistingUser_eq valid apart
  have kept := upsertUser_valid progress.kept.valid written
  rcases upsertUser_cases written with
    ⟨found, rfl, rfl, -, rfl⟩ | ⟨existing, found, rfl, rfl, -, rfl⟩
  · rw [matched, Except.ok.injEq] at found
    refine ⟨kept, ?_, ⟨rfl, rfl, rfl, rfl, rfl, rfl⟩, ?_, ?_, ?_, ?_, fun _ => rfl, rfl, rfl, rfl⟩
    · exact List.mem_append_right _ (List.mem_singleton_self _)
    · exact fun seen => absurd (progress.seen_lt seen) (Nat.lt_irrefl _)
    · rw [found]
      rfl
    · intro other different
      rw [List.mem_append, List.mem_singleton]
      refine or_iff_left ?_
      rintro rfl
      exact different rfl
    · exact fun other listed => ⟨other, List.mem_append_left _ listed, rfl⟩
  · rw [matched, Except.ok.injEq] at found
    obtain ⟨there, free⟩ := choice_unseen found
    have listed := (progress.unseen existing free).mpr there
    have present : updatedUser record now existing ∈
        replaceRow User.id (updatedUser record now existing) state.tables.users :=
      mem_replaceRow_self ⟨existing, listed, rfl⟩
    refine ⟨kept, present, ⟨rfl, ?_, rfl, rfl, rfl, rfl⟩, free, ?_, ?_, ?_, nofun, rfl, rfl, rfl⟩
    · simp only [updatedUser, guid_of_ne nonempty given, Option.some_or, given]
    · rw [found]
      rfl
    · intro other different
      constructor
      · intro later
        rcases mem_replaceRow later with rfl | ⟨before, -⟩
        · exact absurd rfl different
        · exact before
      · exact fun before => mem_replaceRow_of_ne before different
    · intro other before
      by_cases same : other.id = existing.id
      · exact ⟨_, present, same.symm⟩
      · exact ⟨other, mem_replaceRow_of_ne before same, rfl⟩

/-- One more record of a run: its row is written, and the records before keep theirs. -/
theorem SyncProgress.add {done : List ADUserRecord} {state next : SyncState}
    {record : ADUserRecord} (valid : start.Valid fold)
    (progress : SyncProgress fold start done state) (apart : ApartFrom fold done record)
    (passed : syncRecord fold now state record = .ok next) :
    SyncProgress fold start (done ++ [record]) next := by
  obtain ⟨middle, user, inserted, last, known, upserted, replaced, rfl⟩ := syncRecord_cases passed
  have row := progress.upsertUser valid apart upserted
  have before : GroupsWritten start (done.flatMap ADUserRecord.groups)
      (middle, state.groupsBySid) :=
    ⟨progress.groups.known, fun group listed => progress.groups.written group
      (row.adGroups ▸ listed)⟩
  have groups := replaceUserGroups_spec row.valid (progress.kept.remembered.upsert upserted)
    before replaced
  have users : last.users = middle.users := groups.kept.frame.users
  have edges : ∀ edge : UserADGroup, edge.userId ≠ user.id →
      (edge ∈ last.userAdGroups ↔ edge ∈ state.tables.userAdGroups) := by
    intro edge different
    rw [groups.others edge different, row.userAdGroups]
  have stay : GroupsStay state.tables last := fun group listed =>
    groups.kept.frame.adGroups group (row.adGroups ▸ listed)
  refine
    { kept := ⟨groups.kept.valid, groups.kept.remembered⟩, groups := ?_
      groupRows := progress.groupRows.trans stay, unseen := ?_, edges := ?_, userRows := ?_
      sequence := ?_, rows := ?_, seen := ?_ }
  · rw [List.flatMap_append, List.flatMap_singleton]
    exact groups.written
  · intro other unseen
    rw [List.mem_cons, not_or] at unseen
    rw [users, row.others other unseen.1, progress.unseen other unseen.2]
  · intro edge unseen
    rw [List.mem_cons, not_or] at unseen
    rw [edges edge unseen.1, progress.edges edge unseen.2]
  · intro other listed
    obtain ⟨same, there, id⟩ := progress.userRows other listed
    obtain ⟨final, still, finalId⟩ := row.userRows same there
    exact ⟨final, users ▸ still, finalId.trans id⟩
  · refine Nat.le_trans progress.sequence ?_
    dsimp only
    rw [groups.kept.frame.nextUserId, row.nextUserId]
    exact Nat.le_add_right _ _
  · intro earlier listed
    rcases List.mem_append.mp listed with old | new
    · obtain ⟨kept, there, seen, carries, member⟩ := progress.rows earlier old
      have different : kept.id ≠ user.id := fun same => row.unseen (same ▸ seen)
      refine ⟨kept, ?_, List.mem_cons_of_mem _ seen, carries, ?_⟩
      · rw [users]
        exact (row.others kept different).mpr there
      · refine member.frame groups.kept.valid stay fun id => edges _ different
    · obtain rfl := List.mem_singleton.mp new
      exact ⟨user, users ▸ row.row, List.mem_cons_self, row.carries, groups.own⟩
  · intro id seen
    rcases List.mem_cons.mp seen with rfl | old
    · exact ⟨record, List.mem_append_right _ (List.mem_singleton_self record), user,
        users ▸ row.row, rfl, row.carries⟩
    · obtain ⟨earlier, met, kept, there, rfl, carries⟩ := progress.seen id old
      have different : kept.id ≠ user.id := fun same => row.unseen (same ▸ old)
      exact ⟨earlier, List.mem_append_left _ met, kept,
        users ▸ (row.others kept different).mpr there, rfl, carries⟩

/-- One more record leaves the row that it writes, next to the other rows. -/
theorem SyncProgress.written {done : List ADUserRecord} {state next : SyncState}
    {record : ADUserRecord} (valid : start.Valid fold)
    (progress : SyncProgress fold start done state) (apart : ApartFrom fold done record)
    (passed : syncRecord fold now state record = .ok next) :
    ∃ middle user inserted, RowWritten fold start state record middle user inserted ∧
      next.tables.users = middle.users ∧ next.seenUserIds = user.id :: state.seenUserIds := by
  obtain ⟨middle, user, inserted, last, known, upserted, replaced, rfl⟩ := syncRecord_cases passed
  have row := progress.upsertUser valid apart upserted
  have groups := replaceUserGroups_kept row.valid (progress.kept.remembered.upsert upserted)
    replaced
  exact ⟨middle, user, inserted, row, groups.frame.users, rfl⟩

/-- Rows that records have taken are not written again. -/
def Settled (before after : SyncState) : Prop :=
  ∀ row ∈ before.tables.users, row.id ∈ before.seenUserIds →
    row ∈ after.tables.users ∧ row.id ∈ after.seenUserIds

/-- One more record leaves the rows of those before it. -/
theorem SyncProgress.settled {done : List ADUserRecord} {state next : SyncState}
    {record : ADUserRecord} (valid : start.Valid fold)
    (progress : SyncProgress fold start done state) (apart : ApartFrom fold done record)
    (passed : syncRecord fold now state record = .ok next) : Settled state next := by
  obtain ⟨middle, user, inserted, row, users, seenThen⟩ := progress.written valid apart passed
  intro taken listed seen
  have different : taken.id ≠ user.id := fun same => row.unseen (same ▸ seen)
  rw [users, seenThen]
  exact ⟨(row.others taken different).mpr listed, List.mem_cons_of_mem _ seen⟩

/-- All records, one by one. -/
theorem SyncProgress.addAll {done records : List ADUserRecord} {state last : SyncState}
    (valid : start.Valid fold) (accounts : ToldApart fold (done ++ records))
    (progress : SyncProgress fold start done state)
    (passed : (recordStep fold now).run state records = some last) :
    SyncProgress fold start (done ++ records) last ∧ Settled state last := by
  induction records generalizing state done with
  | nil =>
    obtain rfl := Option.some.inj passed
    rw [List.append_nil]
    exact ⟨progress, fun row listed seen => ⟨listed, seen⟩⟩
  | cons record records ih =>
    obtain ⟨middle, stepped, rest⟩ := Step.run_cons.mp passed
    have written := passes_eq_some.mp stepped
    have more := progress.add valid accounts.apart written
    have settled := progress.settled valid accounts.apart written
    have joined : done ++ record :: records = (done ++ [record]) ++ records := by
      rw [List.append_assoc, List.singleton_append]
    rw [joined] at accounts ⊢
    obtain ⟨all, later⟩ := ih accounts more rest
    refine ⟨all, fun row listed seen => ?_⟩
    obtain ⟨there, still⟩ := settled row listed seen
    exact later row there still

end TacacsWeb.Verif
