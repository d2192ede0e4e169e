import TacacsWeb.Verif.DirectoryTree
import TacacsWeb.Verif.SyncOrder

/-!
# Whose groups an account ends up with

A fetch gives an account one record for each base DN that it is under, and a run applies them in
turn, each replacing the memberships of the one before. What stays are the groups under the last of
these base DNs.
-/

namespace TacacsWeb.Verif

open TacacsWeb.Library TacacsWeb.Model

variable {fold : CaseFolding} {start tables committed : IdentityTables} {now : Nat}

/-! ## The row of the last record -/

/-- What holds between two records, however the records are related. -/
structure RunKept (fold : CaseFolding) (start : IdentityTables) (state : SyncState) : Prop where
  /-- The tables meet their constraints. -/
  kept : SyncInvariant fold state
  /-- The groups of the records met so far are written. -/
  groups : ∃ given, GroupsWritten start given (state.tables, state.groupsBySid)

/-- What one record does: it writes a row, replaces the memberships of that row and leaves those of
the others. -/
structure RecordApplied (fold : CaseFolding) (now : Nat) (state next : SyncState)
    (record : ADUserRecord) (middle : IdentityTables) (user : User) (inserted : Bool) : Prop where
  /-- The row is written. -/
  upserted : upsertUser fold state.tables record now = .ok (middle, user, inserted)
  /-- The other writes leave the rows. -/
  users : next.tables.users = middle.users
  /-- No group goes. -/
  stay : GroupsStay state.tables next.tables
  /-- The memberships of others stay. -/
  others : OtherEdges user.id state.tables next.tables
  /-- The row has the memberships of the record. -/
  own : MemberOfExactly next.tables user.id (record.groups.map ADGroupRecord.sid)

/-- Writing a row leaves the memberships as they are. -/
theorem upsertUser_userAdGroups {after : IdentityTables} {record : ADUserRecord} {user : User}
    {inserted : Bool} (written : upsertUser fold tables record now = .ok (after, user, inserted)) :
    after.userAdGroups = tables.userAdGroups := by
  cases upsertUser_cases written with
  | inl new =>
    rw [new.2.2.2.2]
  | inr old =>
    obtain ⟨existing, -, -, -, -, same⟩ := old
    rw [same]

/-- A record that passes is applied. -/
theorem RunKept.applied {state next : SyncState} {record : ADUserRecord}
    (before : RunKept fold start state) (passed : syncRecord fold now state record = .ok next) :
    RunKept fold start next ∧
      ∃ middle user inserted, RecordApplied fold now state next record middle user inserted := by
  obtain ⟨given, written⟩ := before.groups
  obtain ⟨middle, user, inserted, last, known, upserted, replaced, same⟩ := syncRecord_cases passed
  have adGroups := upsertUser_adGroups upserted
  have edges := upsertUser_userAdGroups upserted
  have groupsThen : GroupsWritten start given (middle, state.groupsBySid) :=
    ⟨written.known, fun group listed => written.written group (adGroups ▸ listed)⟩
  have valid := upsertUser_valid before.kept.valid upserted
  have groups := replaceUserGroups_spec valid (before.kept.remembered.upsert upserted) groupsThen
    replaced
  rw [same]
  constructor
  · exact ⟨⟨groups.kept.valid, groups.kept.remembered⟩, _, groups.written⟩
  · refine ⟨middle, user, inserted, upserted, groups.kept.frame.users, ?_, ?_, groups.own⟩
    · intro group listed
      exact groups.kept.frame.adGroups group (adGroups ▸ listed)
    · intro edge different
      rw [groups.others edge different, edges]

/-- A row with the GUID and the name of a record, and its memberships. -/
structure HoldsRecord (tables : IdentityTables) (record : ADUserRecord) (row : User) : Prop where
  /-- The row is there. -/
  listed : row ∈ tables.users
  /-- It has the GUID. -/
  adObjectGuid : row.adObjectGuid = record.adObjectGuid
  /-- It has the name. -/
  samAccountName : row.samAccountName = record.samAccountName
  /-- It has the memberships. -/
  member : MemberOfExactly tables row.id (record.groups.map ADGroupRecord.sid)

/-- The row of a record with a GUID holds it. -/
theorem RecordApplied.holds {state next : SyncState} {record : ADUserRecord}
    {middle : IdentityTables} {user : User} {inserted : Bool}
    (applied : RecordApplied fold now state next record middle user inserted) {guid : String}
    (nonempty : guid ≠ "") (given : record.adObjectGuid = some guid) :
    HoldsRecord next.tables record user := by
  cases upsertUser_cases applied.upserted with
  | inl new =>
    obtain ⟨-, -, same, -, after⟩ := new
    have listed : user ∈ next.tables.users := by
      rw [applied.users, after]
      exact List.mem_append_right _ (List.mem_singleton_self user)
    exact ⟨listed, by rw [same]; rfl, by rw [same]; rfl, applied.own⟩
  | inr old =>
    obtain ⟨existing, found, -, same, -, after⟩ := old
    have there := (findExistingUser_some found).1
    have id : existing.id = user.id := by rw [same]; rfl
    have listed : user ∈ next.tables.users := by
      rw [applied.users, after]
      exact mem_replaceRow_self ⟨existing, there, id⟩
    refine ⟨listed, ?_, by rw [same]; rfl, applied.own⟩
    rw [same]
    simp only [updatedUser, guid_of_ne nonempty given, Option.some_or, given]

/-- A record of another GUID and another name. -/
structure OtherAccount (fold : CaseFolding) (record other : ADUserRecord) : Prop where
  /-- The GUIDs differ. -/
  guid : other.adObjectGuid ≠ record.adObjectGuid
  /-- The names differ. -/
  name : NamesApart fold record other

/-- The record of another account is applied to another row. -/
theorem RecordApplied.elsewhere {state next : SyncState} {record other : ADUserRecord}
    {middle : IdentityTables} {user row : User} {inserted : Bool}
    (applied : RecordApplied fold now state next other middle user inserted)
    (valid : state.tables.Valid fold) (apart : OtherAccount fold record other)
    (holds : HoldsRecord state.tables record row) : row.id ≠ user.id ∧ row ∈ next.tables.users := by
  rw [applied.users]
  cases upsertUser_cases applied.upserted with
  | inl new =>
    obtain ⟨-, -, same, -, after⟩ := new
    constructor
    · rw [same]
      exact (valid.userSequence row holds.listed).ne
    · rw [after]
      exact List.mem_append_left _ holds.listed
  | inr old =>
    obtain ⟨existing, found, -, same, -, after⟩ := old
    obtain ⟨there, matched⟩ := findExistingUser_some found
    have different : row.id ≠ existing.id := by
      intro equal
      have one : row = existing := List.inj_on_of_nodup_map valid.userId holds.listed there equal
      rw [← one] at matched
      cases matched with
      | inl byGuid =>
        obtain ⟨guid, given, carried⟩ := byGuid
        have own := (Option.filter_eq_some_iff.mp given).1
        exact apart.guid (own.trans (carried.symm.trans holds.adObjectGuid))
      | inr byName =>
        have lowered := byName.2
        rw [holds.samAccountName] at lowered
        apply apart.name (a := fold.sql record.samAccountName)
        · exact List.mem_cons_self
        · rw [lowered]
          exact List.mem_cons_of_mem _ List.mem_cons_self
    have id : user.id = existing.id := by rw [same]; rfl
    rw [id]
    refine ⟨different, ?_⟩
    rw [after]
    exact mem_replaceRow_of_ne holds.listed (by rw [id]; exact different)

/-- Records of other accounts leave the row of a record. -/
theorem holdsRecord_run {record : ADUserRecord} {row : User} {others : List ADUserRecord}
    {state last : SyncState} (kept : RunKept fold start state)
    (apart : ∀ other ∈ others, OtherAccount fold record other)
    (holds : HoldsRecord state.tables record row)
    (passed : (recordStep fold now).run state others = some last) :
    RunKept fold start last ∧ HoldsRecord last.tables record row := by
  induction others generalizing state with
  | nil =>
    cases passed
    exact ⟨kept, holds⟩
  | cons other others ih =>
    obtain ⟨next, stepped, rest⟩ := Step.run_cons.mp passed
    obtain ⟨keptNext, middle, user, inserted, applied⟩ := kept.applied (passes_eq_some.mp stepped)
    obtain ⟨different, listed⟩ :=
      applied.elsewhere kept.kept.valid (apart other List.mem_cons_self) holds
    have member := holds.member.frame keptNext.kept.valid applied.stay fun id =>
      applied.others ⟨row.id, id⟩ different
    exact ih keptNext (fun later present => apart later (List.mem_cons_of_mem _ present))
      ⟨listed, holds.adObjectGuid, holds.samAccountName, member⟩ rest

/-- After a run the row of an account has the groups of the last record with its GUID. -/
theorem runSync_lastRecord {call : SyncCall} {result : SyncResult} (valid : start.Valid fold)
    (ran : runSync fold start call = .ok (committed, result)) {before after : List ADUserRecord}
    {record : ADUserRecord} (parts : call.records = before ++ record :: after) {guid : String}
    (nonempty : guid ≠ "") (given : record.adObjectGuid = some guid)
    (apart : ∀ other ∈ after, OtherAccount fold record other) :
    ∃ row ∈ committed.users, row.adObjectGuid = some guid ∧
      groupSids committed row.id = {sid | sid ∈ record.groups.map ADGroupRecord.sid} := by
  obtain ⟨last, passed, finished⟩ := runSync_eq_ok.mp ran
  rw [parts] at passed
  obtain ⟨reached, first, rest⟩ := Step.run_append.mp passed
  obtain ⟨next, stepped, later⟩ := Step.run_cons.mp rest
  have begun : RunKept fold start (.initial call.startedAt start) := by
    refine ⟨syncInvariant_initial call.startedAt valid, [], ?_, ?_⟩
    · intro sid
      simp [SyncState.initial]
    · intro group listed
      exact .inr ⟨listed, fun other none => by cases none⟩
  have kept : RunKept fold start reached := Step.run_invariant (RunKept fold start)
    (fun _ _ _ earlier step => (earlier.applied (passes_eq_some.mp step)).1) begun first
  obtain ⟨keptNext, middle, user, inserted, applied⟩ := kept.applied (passes_eq_some.mp stepped)
  obtain ⟨keptLast, holds⟩ :=
    holdsRecord_run keptNext apart (applied.holds nonempty given) later
  obtain ⟨change, same, users⟩ := finishSync_users call.finishedAt last
  obtain ⟨groups, edges⟩ := finishSync_groups finished
  have validLast := runSync_valid valid ran
  rw [finished] at users
  refine ⟨change user, ?_, (same user).2.2.trans (holds.adObjectGuid.trans given), ?_⟩
  · have listed := List.mem_map_of_mem (f := change) holds.listed
    rw [show committed = _ from users]
    exact listed
  · rw [(same user).1]
    apply MemberOfExactly.groupSids_eq validLast
    exact ⟨fun sid present => groups ▸ holds.member.row sid present, fun id => by
      rw [edges, groups]
      exact holds.member.edge id⟩

/-! ## The groups of an account -/

namespace DirectoryTree

variable (tree : DirectoryTree fold)

/-- The SIDs of the groups in some places that an account is transitively a member of. -/
def memberSids (place : String → Prop) (userDn : String) : Set String :=
  {sid | ∃ group ∈ tree.groups, ∃ record, groupRecord group = some record ∧ record.sid = sid ∧
    place group.dn ∧ tree.TransitiveMember userDn group.dn}

/-- The place under any of some base DNs. -/
def UnderAny (baseDns : List PyString) (dn : String) : Prop :=
  ∃ baseDn ∈ baseDns, tree.located dn baseDn = true

/-- Every base DN that an account is under has under it every group of the account that is under
any of the base DNs. -/
def GroupsBeside (baseDns : List PyString) (userDn : String) : Prop :=
  ∀ baseDn ∈ baseDns, tree.located userDn baseDn = true →
    ∀ group ∈ tree.groups, (groupRecord group).isSome = true →
      tree.TransitiveMember userDn group.dn → tree.UnderAny baseDns group.dn →
        tree.located group.dn baseDn = true

/-- One base DN has all SIDs exactly when it has all groups. -/
theorem memberSids_eq_iff {baseDns : List PyString} {baseDn : PyString} (listed : baseDn ∈ baseDns)
    (userDn : String) :
    tree.memberSids (fun dn => tree.located dn baseDn = true) userDn =
        tree.memberSids (tree.UnderAny baseDns) userDn ↔
      ∀ group ∈ tree.groups, (groupRecord group).isSome = true →
        tree.TransitiveMember userDn group.dn → tree.UnderAny baseDns group.dn →
          tree.located group.dn baseDn = true := by
  constructor
  · intro same group there recorded member under
    obtain ⟨record, written⟩ := Option.isSome_iff_exists.mp recorded
    have present : record.sid ∈ tree.memberSids (tree.UnderAny baseDns) userDn :=
      ⟨group, there, record, written, rfl, under, member⟩
    rw [← same] at present
    obtain ⟨other, otherThere, otherRecord, otherWritten, sid, located, -⟩ := present
    have apart := List.pairwise_map.mp tree.groupSids
    rw [List.pairwise_filterMap] at apart
    by_contra elsewhere
    have different : other ≠ group := by
      intro equal
      rw [equal] at located
      exact elsewhere located
    have symmetric : Std.Symm fun left right : SearchItem =>
        ∀ one, groupRecord left = some one → ∀ two, groupRecord right = some two →
          one.sid ≠ two.sid :=
      ⟨fun left right distinct one first two second equal =>
        distinct two second one first equal.symm⟩
    exact apart.forall otherThere there different otherRecord otherWritten record written sid
  · intro all
    ext sid
    constructor
    · intro present
      obtain ⟨group, there, record, written, same, located, member⟩ := present
      exact ⟨group, there, record, written, same, ⟨baseDn, listed, located⟩, member⟩
    · intro present
      obtain ⟨group, there, record, written, same, under, member⟩ := present
      have recorded : (groupRecord group).isSome = true := by rw [written]; rfl
      exact ⟨group, there, record, written, same, all group there recorded member under, member⟩

end DirectoryTree

variable {tree : DirectoryTree fold} {client : LdapClient} {userFilter : String}

/-- The groups that a fetch gives an account under a base DN. -/
theorem groupsUnder_sids (answers : AnswersCompletely tree client userFilter) (baseDn : PyString)
    {user : SearchItem} (account : user ∈ tree.users) :
    {sid | sid ∈ (groupsUnder client baseDn user.dn).map ADGroupRecord.sid} =
      tree.memberSids (fun dn => tree.located dn baseDn = true) user.dn := by
  have reply := answers.groups baseDn user account
  ext sid
  constructor
  · intro present
    obtain ⟨record, listed, same⟩ := List.mem_map.mp present
    obtain ⟨group, entry, written⟩ := List.mem_filterMap.mp listed
    obtain ⟨there, located, member⟩ := (reply.entry group).mp entry
    exact ⟨group, there, record, written, same, located, member⟩
  · intro present
    obtain ⟨group, there, record, written, same, located, member⟩ := present
    have entry := (reply.entry group).mpr ⟨there, located, member⟩
    exact List.mem_map.mpr ⟨record, List.mem_filterMap.mpr ⟨group, entry, written⟩, same⟩

/-- The record of an account without its groups. -/
theorem accountRecord_bare {user : SearchItem} {groups : List ADGroupRecord}
    {record : ADUserRecord} (written : accountRecord groups user = some record) :
    accountRecord [] user = some { record with groups := [] } := by
  obtain ⟨sam, named, same⟩ := Option.map_eq_some_iff.mp written
  rw [accountRecord, named, Option.map_some, ← same]

/-- The records of two accounts are those of two accounts. -/
theorem otherAccount_of_ne {user other : SearchItem} (account : user ∈ tree.users)
    (otherAccount : other ∈ tree.users) (different : user ≠ other)
    {groups otherGroups : List ADGroupRecord} {record otherRecord : ADUserRecord}
    (written : accountRecord groups user = some record)
    (otherWritten : accountRecord otherGroups other = some otherRecord) :
    OtherAccount fold record otherRecord := by
  have bare := accountRecord_bare written
  have otherBare := accountRecord_bare otherWritten
  have guids := List.pairwise_map.mp tree.accounts.distinctGuids
  have names := tree.accounts.distinctNames
  rw [List.pairwise_filterMap] at guids names
  have symmetricGuids : Std.Symm fun left right : SearchItem =>
      ∀ one, accountRecord [] left = some one → ∀ two, accountRecord [] right = some two →
        one.adObjectGuid ≠ two.adObjectGuid :=
    ⟨fun left right distinct one first two second equal =>
      distinct two second one first equal.symm⟩
  have symmetricNames : Std.Symm fun left right : SearchItem =>
      ∀ one, accountRecord [] left = some one → ∀ two, accountRecord [] right = some two →
        NamesApart fold one two :=
    ⟨fun left right distinct one first two second => (distinct two second one first).symm⟩
  constructor
  · exact Ne.symm (guids.forall account otherAccount different _ bare
      { otherRecord with groups := [] } otherBare)
  · exact names.forall account otherAccount different _ bare { otherRecord with groups := [] }
      otherBare

/-! ## Fetching and syncing -/

/-- A fetch from some base DNs and a run on its records, which end with some tables. -/
def Synced (fold : CaseFolding) (client : LdapClient) (userFilter : String)
    (start : IdentityTables) (baseDns : List PyString) (committed : IdentityTables) : Prop :=
  ∃ call result, fetchUsers client baseDns userFilter = .ok call.records ∧
    runSync fold start call = .ok (committed, result)

/-- The row of an account has the groups with some SIDs. -/
def StoredGroups (committed : IdentityTables) (user : SearchItem) (sids : Set String) : Prop :=
  ∃ row ∈ committed.users, row.adObjectGuid = formatGuid (entryRaw user "objectGUID") ∧
    groupSids committed row.id = sids

/-- What is stored is what the last base DN that an account is under has. -/
theorem synced_lastBase (answers : AnswersCompletely tree client userFilter)
    (valid : start.Valid fold) {user : SearchItem} (account : user ∈ tree.users)
    (named : (entryText user "sAMAccountName").isSome = true) {front back : List PyString}
    {baseDn : PyString} (located : tree.located user.dn baseDn = true)
    (last : ∀ later ∈ back, ¬tree.located user.dn later = true)
    (synced : Synced fold client userFilter start (front ++ baseDn :: back) committed) :
    StoredGroups committed user
      (tree.memberSids (fun dn => tree.located dn baseDn = true) user.dn) := by
  obtain ⟨call, result, fetched, ran⟩ := synced
  rw [fetchUsers_eq answers, Except.ok.injEq] at fetched
  obtain ⟨sam, sameName⟩ := Option.isSome_iff_exists.mp named
  have reply := answers.users baseDn
  obtain ⟨earlier, later, entries⟩ := List.append_of_mem ((reply.entry user).mpr ⟨account, located⟩)
  obtain ⟨record, written⟩ : ∃ record, recordUnder client baseDn user = some record := by
    unfold recordUnder accountRecord
    rw [sameName]
    exact ⟨_, rfl⟩
  have fields : record.adObjectGuid = formatGuid (entryRaw user "objectGUID") ∧
      record.groups = groupsUnder client baseDn user.dn := by
    unfold recordUnder accountRecord at written
    rw [sameName] at written
    cases written
    exact ⟨rfl, rfl⟩
  have parts : call.records =
      (front.flatMap (recordsUnder client userFilter) ++
        earlier.filterMap (recordUnder client baseDn)) ++
      record :: (later.filterMap (recordUnder client baseDn) ++
        back.flatMap (recordsUnder client userFilter)) := by
    rw [← fetched, List.flatMap_append, List.flatMap_cons, recordsUnder, entries,
      List.filterMap_append, List.filterMap_cons_some written]
    simp
  have apart : ∀ other ∈ later.filterMap (recordUnder client baseDn) ++
      back.flatMap (recordsUnder client userFilter), OtherAccount fold record other := by
    intro other listed
    cases List.mem_append.mp listed with
    | inl here =>
      obtain ⟨entry, there, otherWritten⟩ := List.mem_filterMap.mp here
      have inReply : entry ∈ entriesOf (client.search baseDn userFilter userAttrs 500) := by
        rw [entries]
        exact List.mem_append_right _ (List.mem_cons_of_mem _ there)
      have different : user ≠ entry := by
        intro equal
        have once := reply.once
        rw [entries] at once
        have behind := (List.nodup_append.mp once).2.1
        exact (List.nodup_cons.mp behind).1 (equal ▸ there)
      exact otherAccount_of_ne account ((reply.entry entry).mp inReply).1 different written
        otherWritten
    | inr behind =>
      obtain ⟨otherBase, present, under⟩ := List.mem_flatMap.mp behind
      obtain ⟨entry, there, otherWritten⟩ := List.mem_filterMap.mp under
      obtain ⟨otherAccount, otherLocated⟩ := ((answers.users otherBase).entry entry).mp there
      have different : user ≠ entry := by
        intro equal
        rw [← equal] at otherLocated
        exact last otherBase present otherLocated
      exact otherAccount_of_ne account otherAccount different written otherWritten
  obtain ⟨guid, nonempty, given⟩ : ∃ guid, guid ≠ "" ∧ record.adObjectGuid = some guid := by
    have bare := accountRecord_bare written
    exact tree.accounts.guid { record with groups := [] }
      (List.mem_filterMap.mpr ⟨user, account, bare⟩)
  obtain ⟨row, listed, rowGuid, sids⟩ := runSync_lastRecord valid ran parts nonempty given apart
  refine ⟨row, listed, ?_, ?_⟩
  · rw [rowGuid, ← given, fields.1]
  · rw [sids, fields.2, groupsUnder_sids answers baseDn account]

/-- A row of an account is the only one. -/
theorem StoredGroups.unique (valid : committed.Valid fold) {user : SearchItem} {guid : String}
    (given : formatGuid (entryRaw user "objectGUID") = some guid) {sids others : Set String}
    (first : StoredGroups committed user sids) (second : StoredGroups committed user others) :
    sids = others := by
  obtain ⟨row, listed, rowGuid, same⟩ := first
  obtain ⟨other, otherListed, otherGuid, otherSame⟩ := second
  have one := eq_of_guid valid listed otherListed (rowGuid.trans given) (otherGuid.trans given)
  rw [← same, ← otherSame, one]

/-- Where every order of the base DNs can be synced, an account ends up with all its groups under
any of the base DNs in every order if and only if every base DN that the account is under has these
groups under it. -/
theorem memberships_complete_iff (answers : AnswersCompletely tree client userFilter)
    (valid : start.Valid fold) {baseDns : List PyString} {user : SearchItem}
    (account : user ∈ tree.users) (named : (entryText user "sAMAccountName").isSome = true)
    (found : tree.UnderAny baseDns user.dn)
    (completes : ∀ order : List PyString, order.Perm baseDns →
      ∃ committed, Synced fold client userFilter start order committed) :
    (∀ order : List PyString, order.Perm baseDns → ∀ committed,
      Synced fold client userFilter start order committed →
        StoredGroups committed user (tree.memberSids (tree.UnderAny baseDns) user.dn)) ↔
      tree.GroupsBeside baseDns user.dn := by
  constructor
  · intro complete baseDn listed located
    rw [← tree.memberSids_eq_iff listed]
    obtain ⟨front, back, parts⟩ := List.append_of_mem listed
    have order : (front ++ back ++ baseDn :: []).Perm baseDns := by
      rw [parts, List.append_assoc]
      exact List.Perm.append_left front (List.perm_append_singleton baseDn back)
    obtain ⟨committed, synced⟩ := completes _ order
    have stored := synced_lastBase answers valid account named located
      (fun later none => by cases none) synced
    have expected := complete _ order committed synced
    obtain ⟨call, result, fetched, ran⟩ := synced
    obtain ⟨guid, given⟩ : ∃ guid, formatGuid (entryRaw user "objectGUID") = some guid := by
      obtain ⟨sam, sameName⟩ := Option.isSome_iff_exists.mp named
      have bare : ∃ record, accountRecord [] user = some record ∧
          record.adObjectGuid = formatGuid (entryRaw user "objectGUID") := by
        unfold accountRecord
        rw [sameName]
        exact ⟨_, rfl, rfl⟩
      obtain ⟨record, written, same⟩ := bare
      obtain ⟨guid, -, given⟩ :=
        tree.accounts.guid record (List.mem_filterMap.mpr ⟨user, account, written⟩)
      exact ⟨guid, same.symm.trans given⟩
    exact stored.unique (runSync_valid valid ran) given expected
  · intro beside order permuted committed synced
    obtain ⟨baseDn, listed, located⟩ := found
    have present : ∃ base ∈ order, tree.located user.dn base = true :=
      ⟨baseDn, permuted.mem_iff.mpr listed, located⟩
    obtain ⟨front, lastBase, back, parts, under, last⟩ := exists_last present
    have inBases : lastBase ∈ baseDns := by
      apply permuted.mem_iff.mp
      rw [parts]
      exact List.mem_append_right _ List.mem_cons_self
    rw [parts] at synced
    have stored := synced_lastBase answers valid account named under last synced
    rw [(tree.memberSids_eq_iff inBases user.dn).mpr (beside lastBase inBases under)] at stored
    exact stored

/-- The part of a tree that a DN names: the entry itself and what is below it. -/
def inSubtree (dn : String) : PyString → Bool
  | .text base => dn = base || ("," ++ base).toList.isSuffixOf dn.toList
  | .surrogates _ => false

/-- An account below `OU=Users`. -/
def janEntry : SearchItem where
  type := "searchResEntry"
  dn := "CN=jan,OU=Users,DC=x"
  attributes := (∅ : Dict String AttributeValue).set "sAMAccountName" (.text "jan")
  rawAttributes := (∅ : Dict String RawValue).set "objectGUID"
    (.bytes [1, 2, 3, 4, 5, 6, 7, 8, 9, 10, 11, 12, 13, 14, 15, 16])

/-- A group below `OU=Groups`. -/
def opsEntry : SearchItem where
  type := "searchResEntry"
  dn := "CN=ops,OU=Groups,DC=x"
  attributes := (∅ : Dict String AttributeValue).set "name" (.text "ops")
  rawAttributes := (∅ : Dict String RawValue).set "objectSid"
    (.bytes [1, 1, 0, 0, 0, 0, 0, 5, 1, 0, 0, 0])

/-- One account is told apart. -/
theorem janEntry_toldApart : ToldApart .ascii ([janEntry].filterMap (accountRecord [])) := by
  decide +kernel

/-- One group has its own DN. -/
theorem opsEntry_dns : ([opsEntry].map SearchItem.dn).Nodup := List.nodup_singleton _

/-- One group has its own SID. -/
theorem opsEntry_sids : (([opsEntry].filterMap groupRecord).map ADGroupRecord.sid).Nodup := by
  decide +kernel

/-- A directory with the account and the group. -/
def usersAndGroups : DirectoryTree .ascii where
  users := [janEntry]
  groups := [opsEntry]
  located := inSubtree
  member userDn groupDn := userDn = janEntry.dn ∧ groupDn = opsEntry.dn
  accounts := janEntry_toldApart
  groupDns := opsEntry_dns
  groupSids := opsEntry_sids

/-- The server of that directory. -/
def usersAndGroupsServer : LdapClient where
  construct _ := none
  connect _ _ _ := none
  search baseDn userFilter attributes _ :=
    if attributes = userAttrs then ⟨[janEntry].filter fun entry => inSubtree entry.dn baseDn, none⟩
    else if userFilter = memberFilter janEntry.dn then
      ⟨[opsEntry].filter fun entry => inSubtree entry.dn baseDn, none⟩
    else ⟨[], none⟩
  unbind := none

/-- The account is a member of the group. -/
theorem janEntry_member : usersAndGroups.TransitiveMember janEntry.dn opsEntry.dn :=
  Relation.TransGen.single ⟨rfl, rfl⟩

/-- A selection of search entries holds entries only. -/
theorem entriesOf_filtered {entries : List SearchItem} (selected : SearchItem → Bool)
    (each : ∀ entry ∈ entries, entry.type = "searchResEntry") :
    entriesOf ⟨entries.filter selected, none⟩ = entries.filter selected := by
  apply List.filter_eq_self.mpr
  intro entry listed
  exact decide_eq_true (each entry (List.mem_filter.mp listed).1)

/-- The server answers completely. -/
theorem usersAndGroupsServer_answers :
    AnswersCompletely usersAndGroups usersAndGroupsServer defaultUserFilter where
  users baseDn := by
    have searched : entriesOf (usersAndGroupsServer.search baseDn defaultUserFilter userAttrs 500) =
        [janEntry].filter fun entry => inSubtree entry.dn baseDn := by
      have served : usersAndGroupsServer.search baseDn defaultUserFilter userAttrs 500 =
          ⟨[janEntry].filter fun entry => inSubtree entry.dn baseDn, none⟩ := by
        simp only [usersAndGroupsServer, if_true]
      rw [served]
      exact entriesOf_filtered _ (List.forall_mem_singleton.mpr rfl)
    refine ⟨rfl, ?_, ?_⟩
    · rw [searched]
      exact (List.nodup_singleton janEntry).filter _
    · intro entry
      rw [searched, List.mem_filter]
      exact Iff.rfl
  groups baseDn user account := by
    have same : user = janEntry := List.mem_singleton.mp account
    have searched : entriesOf
        (usersAndGroupsServer.search baseDn (memberFilter user.dn) groupAttrs 500) =
          [opsEntry].filter fun entry => inSubtree entry.dn baseDn := by
      rw [same]
      have apart : groupAttrs ≠ userAttrs := by decide
      have served : usersAndGroupsServer.search baseDn (memberFilter janEntry.dn) groupAttrs 500 =
          ⟨[opsEntry].filter fun entry => inSubtree entry.dn baseDn, none⟩ := by
        simp only [usersAndGroupsServer, if_neg apart, if_true]
      rw [served]
      exact entriesOf_filtered _ (List.forall_mem_singleton.mpr rfl)
    refine ⟨?_, ?_, ?_⟩
    · rw [same]
      rfl
    · rw [searched]
      exact (List.nodup_singleton opsEntry).filter _
    · intro entry
      rw [searched, List.mem_filter, same]
      constructor
      · intro found
        have ops : entry = opsEntry := List.mem_singleton.mp found.1
        refine ⟨found.1, found.2, ?_⟩
        rw [ops]
        exact janEntry_member
      · intro found
        exact ⟨found.1, found.2.1⟩

/-- A run from any of two lists of base DNs completes. -/
theorem usersAndGroups_synced {baseDns : List PyString}
    (listed : baseDns ∈ [[.text "DC=x"], [.text "OU=Users,DC=x", .text "OU=Groups,DC=x"]]) :
    ∃ committed, Synced .ascii usersAndGroupsServer defaultUserFilter .empty baseDns committed := by
  have each : ∀ baseDns ∈
      [[.text "DC=x"], [PyString.text "OU=Users,DC=x", .text "OU=Groups,DC=x"]],
      (runSync .ascii .empty ⟨0, 0, 0, baseDns.flatMap
        (recordsUnder usersAndGroupsServer defaultUserFilter)⟩).toOption.isSome = true := by
    decide +kernel
  obtain ⟨done, ran⟩ := Option.isSome_iff_exists.mp (each baseDns listed)
  exact ⟨done.1, _, done.2, fetchUsers_eq usersAndGroupsServer_answers baseDns,
    toOption_eq_some.mp ran⟩

/-- The tables of a new installation meet their constraints. -/
theorem empty_valid : (IdentityTables.empty).Valid fold := reachable_valid .empty

/-- One base DN above everything. -/
theorem memberships_complete_one :
    (∀ order : List PyString, order.Perm [.text "DC=x"] → ∀ committed,
      Synced .ascii usersAndGroupsServer defaultUserFilter .empty order committed →
        StoredGroups committed janEntry
          (usersAndGroups.memberSids (usersAndGroups.UnderAny [.text "DC=x"]) janEntry.dn)) ↔
      usersAndGroups.GroupsBeside [.text "DC=x"] janEntry.dn := by
  apply memberships_complete_iff usersAndGroupsServer_answers empty_valid
  · exact List.mem_singleton_self janEntry
  · rfl
  · exact ⟨.text "DC=x", List.mem_singleton_self _, by decide⟩
  · intro order permuted
    rw [List.perm_singleton.mp permuted]
    exact usersAndGroups_synced List.mem_cons_self

/-- With the accounts under one base DN and the groups under another no membership is stored. -/
theorem groups_elsewhere_lost :
    ¬ ∀ (fold : CaseFolding) (tree : DirectoryTree fold) (client : LdapClient)
        (userFilter : String) (start committed : IdentityTables) (baseDns : List PyString)
        (user : SearchItem), AnswersCompletely tree client userFilter → Reachable fold start →
      user ∈ tree.users → (entryText user "sAMAccountName").isSome = true →
        tree.UnderAny baseDns user.dn →
          Synced fold client userFilter start baseDns committed →
            StoredGroups committed user (tree.memberSids (tree.UnderAny baseDns) user.dn) := by
  intro claimed
  obtain ⟨committed, synced⟩ := usersAndGroups_synced (List.mem_cons_of_mem _ List.mem_cons_self)
  have account : janEntry ∈ usersAndGroups.users := List.mem_singleton_self janEntry
  have located : usersAndGroups.located janEntry.dn (.text "OU=Users,DC=x") = true := by decide
  have elsewhere : ∀ later ∈ [PyString.text "OU=Groups,DC=x"],
      ¬usersAndGroups.located janEntry.dn later = true := by
    intro later listed
    rw [List.mem_singleton.mp listed]
    decide
  have only : Synced .ascii usersAndGroupsServer defaultUserFilter .empty
      ([] ++ PyString.text "OU=Users,DC=x" :: [.text "OU=Groups,DC=x"]) committed := synced
  have stored := synced_lastBase usersAndGroupsServer_answers empty_valid account rfl located
    elsewhere only
  have expected := claimed .ascii usersAndGroups usersAndGroupsServer defaultUserFilter .empty
    committed _ janEntry usersAndGroupsServer_answers .empty account rfl
    ⟨_, List.mem_cons_self, located⟩ synced
  obtain ⟨call, result, -, ran⟩ := synced
  have same := stored.unique (runSync_valid empty_valid ran) rfl expected
  rw [usersAndGroups.memberSids_eq_iff List.mem_cons_self] at same
  have beside := same opsEntry (List.mem_singleton_self opsEntry) (by decide +kernel)
    janEntry_member ⟨.text "OU=Groups,DC=x", List.mem_cons_of_mem _ List.mem_cons_self, by decide⟩
  revert beside
  decide

end TacacsWeb.Verif
