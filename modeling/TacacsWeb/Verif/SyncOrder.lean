import TacacsWeb.Verif.SyncOutcome

/-!
# Syncs in another order

The directory returns its entries in any order, and the rows are claimed in that order: a record
takes the row of its GUID, else the row of its name. Two orders give every GUID the same row
exactly when the same records find the row of their GUID gone. They need not: a new account with
the old name of a renamed one takes the row of the latter when it comes first.
-/

namespace TacacsWeb.Verif

open TacacsWeb.Library TacacsWeb.Model

variable {fold : CaseFolding} {start committed one two : IdentityTables} {now : Nat}

/-! ## Rows as claims -/

/-- No two records of a snapshot have one row by their GUIDs, or one row by their names. -/
theorem ToldApart.exclusive {records : List ADUserRecord} (accounts : ToldApart fold records) :
    Exclusive (byGuid start) (byName fold start) records where
  first one oneListed other otherListed user oneOwns otherOwns := by
    have own : user.adObjectGuid = one.adObjectGuid := by
      simpa [byGuid] using List.find?_some oneOwns
    have same : user.adObjectGuid = other.adObjectGuid := by
      simpa [byGuid] using List.find?_some otherOwns
    exact List.inj_on_of_nodup_map accounts.distinctGuids oneListed otherListed
      (own.symm.trans same)
  second one oneListed other otherListed user oneNames otherNames := by
    by_contra different
    have own : fold.sql user.samAccountName = fold.python one.samAccountName := by
      simpa [byName] using List.find?_some oneNames
    have same : fold.sql user.samAccountName = fold.python other.samAccountName := by
      simpa [byName] using List.find?_some otherNames
    have apart := accounts.distinctNames.forall oneListed otherListed different
    refine apart (a := fold.python one.samAccountName) ?_ ?_
    · exact List.mem_cons_of_mem _ List.mem_cons_self
    · rw [← own, same]
      exact List.mem_cons_of_mem _ List.mem_cons_self
  nodup := accounts.distinctGuids.of_map

/-- The row of before the run that a record has after it. -/
def took (start committed : IdentityTables) (record : ADUserRecord) : Option User :=
  start.users.find? fun user => user.id = rowOf committed record

/-- The next record of a run gets the row that it takes, and a row it takes was there before. -/
theorem SyncProgress.taken {done : List ADUserRecord} {state next : SyncState}
    {record : ADUserRecord} (valid : start.Valid fold)
    (progress : SyncProgress fold start done state) (apart : ApartFrom fold done record)
    (passed : syncRecord fold now state record = .ok next) :
    ∃ user ∈ next.tables.users, user.id ∈ next.seenUserIds ∧ Carries record user ∧
      (start.users.find? fun row => row.id = user.id) =
        choice fold start state.seenUserIds record := by
  obtain ⟨middle, user, inserted, row, users, seen⟩ := progress.written valid apart passed
  rw [users, seen]
  refine ⟨user, row.row, List.mem_cons_self, row.carries, ?_⟩
  have chosen := row.chosen
  cases found : choice fold start state.seenUserIds record with
  | some existing =>
    rw [found] at chosen
    cases inserted with
    | true => cases chosen
    | false =>
      obtain ⟨there, -⟩ := choice_unseen found
      exact (find_key_eq_some_iff valid.userId).mpr ⟨there, Option.some.inj chosen⟩
  | none =>
    rw [found] at chosen
    cases inserted with
    | false => cases chosen
    | true =>
      -- A new row is numbered after all rows of before the run.
      refine List.find?_eq_none.mpr fun other listed same => ?_
      have equal : other.id = user.id := of_decide_eq_true same
      have below := valid.userSequence other listed
      have numbered := row.numbered rfl
      have grown := progress.sequence
      omega

/-- A row that a record has at some point of a run is its row after the run. -/
theorem rowOf_settled {state last : SyncState} {finishedAt : Nat} {result : SyncResult}
    {record : ADUserRecord} {user : User} {guid : String} (valid : committed.Valid fold)
    (settled : Settled state last) (finished : finishSync finishedAt last = (committed, result))
    (given : record.adObjectGuid = some guid) (listed : user ∈ state.tables.users)
    (seen : user.id ∈ state.seenUserIds) (carries : Carries record user) :
    rowOf committed record = user.id := by
  obtain ⟨there, still⟩ := settled user listed seen
  have nonempty : last.seenUserIds ≠ [] := List.ne_nil_of_mem still
  exact rowOf_eq valid given ((mem_finishSync nonempty finished user).mpr (.inl ⟨still, there⟩))
    carries.adObjectGuid

/-- The records of a run take their rows in order. -/
theorem runSync_takes {call : SyncCall} {result : SyncResult} (valid : start.Valid fold)
    (accounts : ToldApart fold call.records)
    (ran : runSync fold start call = .ok (committed, result)) :
    Takes (byGuid start) (byName fold start) (took start committed) call.records := by
  intro before record later split
  have kept := runSync_valid valid ran
  obtain ⟨last, passed, finished⟩ := runSync_eq_ok.mp ran
  rw [split] at accounts passed
  obtain ⟨state, first, rest⟩ := Step.run_append.mp passed
  have begun : ToldApart fold ([] ++ before) := accounts.init
  obtain ⟨progress, -⟩ := (syncProgress_initial call.startedAt valid).addAll valid begun first
  obtain ⟨-, settled⟩ := progress.addAll valid accounts rest
  obtain ⟨next, stepped, final⟩ := Step.run_cons.mp rest
  have written := passes_eq_some.mp stepped
  have joined : [] ++ before ++ record :: later = ([] ++ before ++ [record]) ++ later := by simp
  have whole : ToldApart fold (([] ++ before ++ [record]) ++ later) := joined ▸ accounts
  obtain ⟨-, rest⟩ := (progress.add valid accounts.apart written).addAll valid whole final
  -- The row of the record is the one it takes at its turn.
  obtain ⟨user, there, seen, carries, chosen⟩ := progress.taken valid accounts.apart written
  obtain ⟨guid, -, given⟩ := accounts.guid record (by simp)
  have row := rowOf_settled kept rest finished given there seen carries
  rw [took, row, chosen, choice]
  -- A row of before the run is free when no record before has it after the run.
  have free : ∀ user ∈ start.users,
      isUnseen state.seenUserIds user = isFree (took start committed) before user := by
    intro user listed
    rw [Bool.eq_iff_iff, isFree_iff]
    simp only [isUnseen, decide_eq_true_eq]
    constructor
    · intro unseen earlier met taken
      obtain ⟨own, present, visited, holds, -⟩ := progress.rows earlier met
      obtain ⟨other, -, named⟩ := accounts.guid earlier (List.mem_append_left _ met)
      have same := rowOf_settled kept settled finished named present visited holds
      obtain ⟨-, id⟩ := (find_key_eq_some_iff valid.userId).mp taken
      rw [id, same] at unseen
      exact unseen visited
    · intro untaken visited
      obtain ⟨earlier, met, own, present, id, holds⟩ := progress.seen user.id visited
      obtain ⟨other, -, named⟩ := accounts.guid earlier (List.mem_append_left _ met)
      have same := rowOf_settled kept settled finished named present (id.symm ▸ visited) holds
      exact untaken earlier met
        ((find_key_eq_some_iff valid.userId).mpr ⟨listed, (same.trans id).symm⟩)
  have narrowed : ∀ found : Option User, (∀ user, found = some user → user ∈ start.users) →
      found.filter (isUnseen state.seenUserIds) =
        found.filter (isFree (took start committed) before) := by
    intro found listed
    cases found with
    | none => rfl
    | some user =>
      simp only [Option.filter_some, free user (listed user rfl)]
  rw [narrowed (byGuid start record) fun user found => List.mem_of_find?_eq_some found,
    narrowed (byName fold start record) fun user found => List.mem_of_find?_eq_some found]

/-! ## Memberships -/

/-- Writing a row leaves the memberships as they are. -/
theorem upsertUser_referenced {tables after : IdentityTables} {record : ADUserRecord} {user : User}
    {inserted : Bool} (referenced : Referenced tables)
    (written : upsertUser fold tables record now = .ok (after, user, inserted)) :
    Referenced after := by
  rcases upsertUser_cases written with ⟨-, -, -, -, rfl⟩ | ⟨existing, -, -, -, -, rfl⟩
  · exact referenced
  · exact referenced

/-- In tables that runs have made, every membership is one of a group that is there. -/
theorem reachable_referenced {tables : IdentityTables} (reached : Reachable fold tables) :
    Referenced tables := by
  induction reached with
  | empty => exact fun _ listed => nomatch listed
  | @sync before committed call result reached ran ih =>
    obtain ⟨last, passed, finished⟩ := runSync_eq_ok.mp ran
    have both := Step.run_invariant
      (fun state => SyncInvariant fold state ∧ Referenced state.tables)
      (fun state record next kept stepped => by
        refine ⟨syncInvariant_step state record next kept.1 stepped, ?_⟩
        have passed : syncRecord fold call.now state record = .ok next :=
          passes_eq_some.mp stepped
        obtain ⟨written, user, inserted, last, known, upserted, replaced, rfl⟩ :=
          syncRecord_cases passed
        exact replaceUserGroups_referenced (upsertUser_valid kept.1.valid upserted)
          (kept.1.remembered.upsert upserted) (upsertUser_referenced kept.2 upserted) replaced)
      ⟨syncInvariant_initial call.startedAt (reachable_valid reached), ih⟩ passed
    obtain ⟨groups, edges⟩ := finishSync_groups finished
    intro edge listed
    rw [groups]
    exact both.2 edge (edges ▸ listed)

/-- The SIDs of the groups of a user. -/
def groupSids (tables : IdentityTables) (userId : Nat) : Set String :=
  {sid | ∃ group ∈ tables.adGroups,
    (⟨userId, group.id⟩ : UserADGroup) ∈ tables.userAdGroups ∧ group.sid = sid}

/-- A member of exactly the groups with some SIDs has these. -/
theorem MemberOfExactly.groupSids_eq {tables : IdentityTables} {userId : Nat} {sids : List String}
    (valid : tables.Valid fold) (member : MemberOfExactly tables userId sids) :
    groupSids tables userId = {sid | sid ∈ sids} := by
  ext sid
  constructor
  · rintro ⟨group, listed, edge, rfl⟩
    obtain ⟨other, there, same, given⟩ := (member.edge group.id).mp edge
    have equal : other = group := List.inj_on_of_nodup_map valid.adGroupId there listed same
    exact equal ▸ given
  · intro given
    obtain ⟨group, listed, same⟩ := member.row sid given
    exact ⟨group, listed, (member.edge group.id).mpr ⟨group, listed, rfl, same ▸ given⟩, same⟩

/-- A user with the memberships of before has the SIDs of before. -/
theorem groupSids_kept {tables after : IdentityTables} {userId : Nat} (valid : after.Valid fold)
    (referenced : Referenced tables) (stay : GroupsStay tables after)
    (edges : ∀ id, (⟨userId, id⟩ : UserADGroup) ∈ after.userAdGroups ↔
      (⟨userId, id⟩ : UserADGroup) ∈ tables.userAdGroups) :
    groupSids after userId = groupSids tables userId := by
  ext sid
  constructor
  · rintro ⟨group, listed, edge, rfl⟩
    have old := (edges group.id).mp edge
    obtain ⟨row, there, same⟩ := referenced _ old
    obtain ⟨later, still, id, sid⟩ := stay row there
    have equal : later = group :=
      List.inj_on_of_nodup_map valid.adGroupId still listed (id.trans same)
    exact ⟨row, there, by rw [same]; exact old, by rw [← sid, equal]⟩
  · rintro ⟨row, there, edge, rfl⟩
    obtain ⟨later, still, id, sid⟩ := stay row there
    exact ⟨later, still, by rw [id]; exact (edges row.id).mpr edge, sid⟩

/-! ## Agreement -/

/-- Two rows of two databases say the same about a user, but for when a sync last saw it. -/
structure SameUser (one two : IdentityTables) (user other : User) : Prop where
  /-- The name. -/
  samAccountName : user.samAccountName = other.samAccountName
  /-- The GUID. -/
  adObjectGuid : user.adObjectGuid = other.adObjectGuid
  /-- The DN. -/
  distinguishedName : user.distinguishedName = other.distinguishedName
  /-- The UPN. -/
  upn : user.upn = other.upn
  /-- The display name. -/
  displayName : user.displayName = other.displayName
  /-- The flag. -/
  enabled : user.enabled = other.enabled
  /-- The groups. -/
  groupSids : groupSids one user.id = groupSids two other.id

/-- Every user of the first database is in the second, in the same row or in rows that were not
there before. -/
def Includes (start one two : IdentityTables) : Prop :=
  ∀ user ∈ one.users, ∃ other ∈ two.users, SameUser one two user other ∧
    (user.id = other.id ∨ ∀ row ∈ start.users, row.id ≠ user.id ∧ row.id ≠ other.id)

/-- Two databases that come from one by two runs agree. -/
def Agree (start one two : IdentityTables) : Prop := Includes start one two ∧ Includes start two one

/-- Two rows that hold one record say the same. -/
theorem Carries.same {record : ADUserRecord} {user other : User} {sids : List String}
    (first : Carries record user) (second : Carries record other) (validOne : one.Valid fold)
    (validTwo : two.Valid fold) (memberOne : MemberOfExactly one user.id sids)
    (memberTwo : MemberOfExactly two other.id sids) : SameUser one two user other where
  samAccountName := first.samAccountName.trans second.samAccountName.symm
  adObjectGuid := first.adObjectGuid.trans second.adObjectGuid.symm
  distinguishedName := first.distinguishedName.trans second.distinguishedName.symm
  upn := first.upn.trans second.upn.symm
  displayName := first.displayName.trans second.displayName.symm
  enabled := first.enabled.trans second.enabled.symm
  groupSids := by
    rw [memberOne.groupSids_eq validOne, memberTwo.groupSids_eq validTwo]

/-- A record that takes one row in both runs is in the same row after them, or in new ones. -/
theorem rows_of_took {record : ADUserRecord} (valid : start.Valid fold)
    (same : took start one record = took start two record) :
    rowOf one record = rowOf two record ∨
      ∀ row ∈ start.users, row.id ≠ rowOf one record ∧ row.id ≠ rowOf two record := by
  cases taken : took start one record with
  | some kept =>
    obtain ⟨-, first⟩ := (find_key_eq_some_iff valid.userId).mp taken
    obtain ⟨-, second⟩ := (find_key_eq_some_iff valid.userId).mp (same.symm.trans taken)
    exact .inl (first.symm.trans second)
  | none =>
    refine .inr fun row listed => ⟨?_, ?_⟩
    · simpa using List.find?_eq_none.mp taken row listed
    · simpa using List.find?_eq_none.mp (same.symm.trans taken) row listed

/-- Where every record takes one row in both runs, the second has every user of the first. -/
theorem includes_of_took {records other : List ADUserRecord} (valid : start.Valid fold)
    (referenced : Referenced start) (validOne : one.Valid fold) (validTwo : two.Valid fold)
    (perm : records.Perm other) (outcomeOne : Outcome start records one (rowOf one))
    (outcomeTwo : Outcome start other two (rowOf two))
    (same : ∀ record ∈ records, took start one record = took start two record) :
    Includes start one two := by
  intro user listed
  by_cases own : ∃ record ∈ records, rowOf one record = user.id
  · obtain ⟨record, given, row⟩ := own
    obtain ⟨holder, there, id, carries⟩ := outcomeOne.carries record given
    obtain rfl := List.inj_on_of_nodup_map validOne.userId there listed (id.trans row)
    have also := perm.mem_iff.mp given
    obtain ⟨matching, present, matchingId, again⟩ := outcomeTwo.carries record also
    have member := outcomeOne.member record given
    have memberTwo := outcomeTwo.member record also
    have rows := rows_of_took valid (same record given)
    rw [row] at member rows
    rw [← matchingId] at memberTwo rows
    exact ⟨matching, present, carries.same again validOne validTwo member memberTwo, rows⟩
  · have apart : ∀ record ∈ records, rowOf one record ≠ user.id :=
      fun record given row => own ⟨record, given, row⟩
    obtain ⟨old, before, rfl⟩ := (outcomeOne.others user apart).mp listed
    have apartTwo : ∀ record ∈ other, rowOf two record ≠ old.id := by
      intro record also row
      have given := perm.mem_iff.mpr also
      have taken : took start two record = some old :=
        (find_key_eq_some_iff valid.userId).mpr ⟨before, row.symm⟩
      rw [← same record given] at taken
      obtain ⟨-, id⟩ := (find_key_eq_some_iff valid.userId).mp taken
      exact apart record given id.symm
    have there : ({ old with enabled := false } : User) ∈ two.users :=
      (outcomeTwo.others { old with enabled := false } apartTwo).mpr ⟨old, before, rfl⟩
    refine ⟨_, there, ⟨rfl, rfl, rfl, rfl, rfl, rfl, ?_⟩, .inl rfl⟩
    rw [groupSids_kept validOne referenced outcomeOne.adGroups
        fun id => outcomeOne.edges ⟨old.id, id⟩ apart,
      groupSids_kept validTwo referenced outcomeTwo.adGroups
        fun id => outcomeTwo.edges ⟨old.id, id⟩ apartTwo]

/-- A row of before that a record takes in one run it takes in the other, where the second has
every user of the first. -/
theorem took_of_includes {records : List ADUserRecord} {record : ADUserRecord} {kept : User}
    {guid : String} (valid : start.Valid fold) (validTwo : two.Valid fold)
    (outcomeOne : Outcome start records one (rowOf one)) (given : record ∈ records)
    (named : record.adObjectGuid = some guid) (included : Includes start one two)
    (taken : took start one record = some kept) : took start two record = some kept := by
  obtain ⟨before, row⟩ := (find_key_eq_some_iff valid.userId).mp taken
  obtain ⟨holder, there, id, carries⟩ := outcomeOne.carries record given
  obtain ⟨matching, present, same, rows⟩ := included holder there
  have equal : holder.id = matching.id :=
    rows.resolve_right fun fresh => (fresh kept before).1 (row.trans id.symm)
  have carried := same.adObjectGuid.symm.trans carries.adObjectGuid
  refine (find_key_eq_some_iff valid.userId).mpr ⟨before, ?_⟩
  rw [rowOf_eq validTwo named present carried, ← equal, id, row]

/-! ## The order of the entries -/

/-- Two runs on one snapshot in two orders agree exactly when the same records find the row of
their GUID gone. -/
theorem agree_iff_findsGone {call reordered : SyncCall} {result again : SyncResult}
    (reached : Reachable fold start) (accounts : ToldApart fold call.records)
    (perm : call.records.Perm reordered.records)
    (ran : runSync fold start call = .ok (one, result))
    (ranAgain : runSync fold start reordered = .ok (two, again)) :
    Agree start one two ↔ ∀ record ∈ call.records,
      (FindsGone fold start call.records record ↔
        FindsGone fold start reordered.records record) := by
  have valid := reachable_valid reached
  have referenced := reachable_referenced reached
  have validOne := runSync_valid valid ran
  have validTwo := runSync_valid valid ranAgain
  have accountsTwo := accounts.perm perm
  have takes := runSync_takes valid accounts ran
  have takesTwo := runSync_takes valid accountsTwo ranAgain
  have congr := takes.congr_iff accounts.exclusive perm takesTwo
  simp only [FindsGone]
  rw [← congr]
  by_cases empty : call.records = []
  · have none : reordered.records = [] := List.perm_nil.mp (empty ▸ perm.symm)
    obtain ⟨first, unchanged⟩ := @runSync_nil fold start call empty
    obtain ⟨second, same⟩ := @runSync_nil fold start reordered none
    obtain rfl : start = one := congrArg Prod.fst (Except.ok.inj (unchanged.symm.trans ran))
    obtain rfl : start = two := congrArg Prod.fst (Except.ok.inj (same.symm.trans ranAgain))
    have refl : Includes start start start := fun user listed =>
      ⟨user, listed, ⟨rfl, rfl, rfl, rfl, rfl, rfl, rfl⟩, .inl rfl⟩
    exact iff_of_true ⟨refl, refl⟩ fun _ _ => rfl
  · have some : reordered.records ≠ [] := fun none => empty (List.perm_nil.mp (none ▸ perm))
    have outcomeOne := runSync_outcome valid accounts empty ran
    have outcomeTwo := runSync_outcome valid accountsTwo some ranAgain
    constructor
    · rintro ⟨forth, back⟩ record given
      obtain ⟨guid, -, named⟩ := accounts.guid record given
      refine Option.ext fun kept => ⟨?_, ?_⟩
      · exact took_of_includes valid validTwo outcomeOne given named forth
      · exact took_of_includes valid validOne outcomeTwo (perm.mem_iff.mp given) named back
    · intro same
      refine ⟨includes_of_took valid referenced validOne validTwo perm outcomeOne outcomeTwo same,
        includes_of_took valid referenced validTwo validOne perm.symm outcomeTwo outcomeOne ?_⟩
      exact fun record given => (same record (perm.mem_iff.mpr given)).symm

/-- One account renamed and one new, whichever comes first. -/
def renamedAndJoinedTables : IdentityTables :=
  ⟨[accountRow 1 "jan.new" "g1", accountRow 2 "eva" "g2"], [], [], 3, 1⟩

/-- A renamed account and a new one under another name agree in both orders. -/
theorem agree_renamedAndJoined :
    Agree oneAccount renamedAndJoinedTables renamedAndJoinedTables := by
  have kept : ∀ records : List ADUserRecord,
      (∀ record ∈ records, byName .ascii oneAccount record = none) →
        ¬FindsGone .ascii oneAccount records (account "jan.new" "g1") := by
    intro records free gone
    cases gone with
    | unheld none => exact absurd none (by decide)
    | taken displaced fallback own precedes =>
      obtain ⟨before, later, rfl, met⟩ := precedes
      rw [free _ (List.mem_append_left _ met)] at fallback
      cases fallback
  have joined : ∀ records, FindsGone .ascii oneAccount records (account "eva" "g2") :=
    fun records => .unheld (by decide)
  have snapshot : Snapshot .ascii renamedAndJoined.records := by decide +kernel
  refine (@agree_iff_findsGone .ascii oneAccount renamedAndJoinedTables renamedAndJoinedTables
    renamedAndJoined (syncOf [account "eva" "g2", account "jan.new" "g1"])
    ⟨2, 1, 1, 0, 0, 0, 0, 0, some 0⟩ ⟨2, 1, 1, 0, 0, 0, 0, 0, some 0⟩
    (.sync (syncOf [account "jan" "g1"]) .empty (by rfl)) snapshot.toToldApart (.swap _ _ _)
    (by decide +kernel) (by decide +kernel)).mpr ?_
  intro record listed
  rcases List.mem_cons.mp listed with rfl | rest
  · exact iff_of_false (kept _ (by decide +kernel)) (kept _ (by decide +kernel))
  · obtain rfl := List.mem_singleton.mp rest
    exact iff_of_true (joined _) (joined _)

/-- A new account has the old name of a renamed one: who comes first gets the row. -/
theorem taken_name_not_agree :
    ¬ ∀ (start one two : IdentityTables) (call reordered : SyncCall) (result again : SyncResult),
      Reachable .ascii start → ToldApart .ascii call.records →
        call.records.Perm reordered.records → runSync .ascii start call = .ok (one, result) →
          runSync .ascii start reordered = .ok (two, again) → Agree start one two := by
  intro claimed
  have snapshot : Snapshot .ascii [account "jan" "g2", account "jan.new" "g1"] := by decide +kernel
  obtain ⟨forth, -⟩ := claimed oneAccount
    ⟨[accountRow 1 "jan" "g2", accountRow 2 "jan.new" "g1"], [], [], 3, 1⟩
    ⟨[accountRow 1 "jan.new" "g1", accountRow 2 "jan" "g2"], [], [], 3, 1⟩
    (syncOf [account "jan" "g2", account "jan.new" "g1"])
    (syncOf [account "jan.new" "g1", account "jan" "g2"])
    ⟨2, 1, 1, 0, 0, 0, 0, 0, some 0⟩ ⟨2, 1, 1, 0, 0, 0, 0, 0, some 0⟩
    (.sync (syncOf [account "jan" "g1"]) .empty (by rfl)) snapshot.toToldApart (.swap _ _ _)
    (by decide +kernel) (by decide +kernel)
  obtain ⟨other, listed, same, row⟩ := forth (accountRow 1 "jan" "g2") List.mem_cons_self
  have id : other.id = 1 :=
    (row.resolve_right fun fresh =>
      (fresh (accountRow 1 "jan" "g1") List.mem_cons_self).1 rfl).symm
  rcases List.mem_cons.mp listed with rfl | rest
  · exact absurd same.adObjectGuid (by decide)
  · obtain rfl := List.mem_singleton.mp rest
    cases id

end TacacsWeb.Verif
