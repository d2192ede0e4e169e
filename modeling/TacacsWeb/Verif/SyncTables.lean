import TacacsWeb.Verif.SyncRows

/-!
# Tables under a sync

The memberships that a record replaces, what one record leaves for the next, and the end of a
run. The constraints that the database enforces hold after every committed run.
-/

namespace TacacsWeb.Verif

open TacacsWeb.Library TacacsWeb.Model

variable {fold : CaseFolding} {tables after : IdentityTables} {now : Nat}

/-! ## Memberships -/

/-- Every group that the run remembers is still a row. -/
def Remembered (tables : IdentityTables) (groupsBySid : GroupsBySid) : Prop :=
  ∀ sid group, groupsBySid.get? sid = some group →
    ∃ row ∈ tables.adGroups, row.id = group.id ∧ row.sid = sid

/-- The users stay as they are and no group loses its id or SID. -/
structure GroupFrame (before after : IdentityTables) : Prop where
  /-- `user` is unchanged. -/
  users : after.users = before.users
  /-- The sequence of `user` is unchanged. -/
  nextUserId : after.nextUserId = before.nextUserId
  /-- Every group is still there under its id and SID. -/
  adGroups : ∀ row ∈ before.adGroups, ∃ same ∈ after.adGroups, same.id = row.id ∧ same.sid = row.sid

/-- Tables that stay as they are keep what the frame of a group write keeps. -/
theorem GroupFrame.refl (tables : IdentityTables) : GroupFrame tables tables :=
  ⟨rfl, rfl, fun row listed => ⟨row, listed, rfl, rfl⟩⟩

/-- Two changes that keep the frame of a group write keep it one after the other. -/
theorem GroupFrame.trans {before middle after : IdentityTables} (first : GroupFrame before middle)
    (second : GroupFrame middle after) : GroupFrame before after := by
  refine ⟨second.users.trans first.users, second.nextUserId.trans first.nextUserId,
    fun row listed => ?_⟩
  obtain ⟨same, there, id, sid⟩ := first.adGroups row listed
  obtain ⟨last, still, sameId, sameSid⟩ := second.adGroups same there
  exact ⟨last, still, sameId.trans id, sameSid.trans sid⟩

/-- What is remembered survives a change that keeps the groups. -/
theorem Remembered.frame {before after : IdentityTables} {groupsBySid : GroupsBySid}
    (remembered : Remembered before groupsBySid) (frame : GroupFrame before after) :
    Remembered after groupsBySid := by
  intro sid group known
  obtain ⟨row, listed, id, same⟩ := remembered sid group known
  obtain ⟨last, there, sameId, sameSid⟩ := frame.adGroups row listed
  exact ⟨last, there, sameId.trans id, sameSid.trans same⟩

/-- What a group lookup leaves: valid tables with the group's row in them, and the memberships
as they were. -/
structure GroupFound (fold : CaseFolding) (before after : IdentityTables)
    (groupsBySid : GroupsBySid) (sid : String) (group : ADGroup) : Prop where
  /-- The constraints hold. -/
  valid : after.Valid fold
  /-- The run remembers rows. -/
  remembered : Remembered after groupsBySid
  /-- Users and groups stay. -/
  frame : GroupFrame before after
  /-- The memberships are unchanged. -/
  userAdGroups : after.userAdGroups = before.userAdGroups
  /-- The group has a row with the SID. -/
  row : ∃ row ∈ after.adGroups, row.id = group.id ∧ row.sid = sid

/-- Remembering a group that is a row. -/
theorem Remembered.set {groupsBySid : GroupsBySid} {sid : String} {group : ADGroup}
    (remembered : Remembered tables groupsBySid)
    (row : ∃ row ∈ tables.adGroups, row.id = group.id ∧ row.sid = sid) :
    Remembered tables (groupsBySid.set sid group) := by
  intro other known found
  rw [Dict.get?_set] at found
  split at found
  · rename_i same
    obtain rfl := Option.some.inj found
    exact same ▸ row
  · exact remembered other known found

/-- A new group with an unused SID. -/
theorem insertGroup_found {groupsBySid : GroupsBySid} (group : ADGroup) (valid : tables.Valid fold)
    (remembered : Remembered tables groupsBySid) (numbered : group.id = tables.nextAdGroupId)
    (unused : ∀ other ∈ tables.adGroups, other.sid ≠ group.sid) :
    GroupFound fold tables
      { tables with
        adGroups := tables.adGroups ++ [group], nextAdGroupId := tables.nextAdGroupId + 1 }
      (groupsBySid.set group.sid group) group.sid group := by
  have frame : GroupFrame tables { tables with
      adGroups := tables.adGroups ++ [group], nextAdGroupId := tables.nextAdGroupId + 1 } :=
    ⟨rfl, rfl, fun row listed => ⟨row, List.mem_append_left _ listed, rfl, rfl⟩⟩
  have row : ∃ row ∈ tables.adGroups ++ [group], row.id = group.id ∧ row.sid = group.sid :=
    ⟨group, List.mem_append_right _ (List.mem_singleton_self group), rfl, rfl⟩
  refine ⟨{ valid with adGroupId := ?_, sid := ?_, adGroupSequence := ?_ },
    (remembered.frame frame).set row, frame, rfl, row⟩
  · rw [List.Nodup, List.pairwise_map]
    refine pairwise_insertRow (List.pairwise_map.mp valid.adGroupId) fun other listed => ?_
    exact numbered ▸ (valid.adGroupSequence other listed).ne
  · rw [List.Nodup, List.pairwise_map]
    exact pairwise_insertRow (List.pairwise_map.mp valid.sid) unused
  · intro other listed
    rcases List.mem_append.mp listed with before | last
    · exact Nat.lt_succ_of_lt (valid.adGroupSequence other before)
    · obtain rfl := List.mem_singleton.mp last
      exact Nat.lt_succ_of_le numbered.le

/-- A group brought up to date under its id and SID. -/
theorem updateGroup_found {groupsBySid : GroupsBySid} {existing group : ADGroup}
    (valid : tables.Valid fold) (remembered : Remembered tables groupsBySid)
    (listed : existing ∈ tables.adGroups) (id : group.id = existing.id)
    (sid : group.sid = existing.sid) :
    GroupFound fold tables { tables with adGroups := replaceRow ADGroup.id group tables.adGroups }
      (groupsBySid.set group.sid group) group.sid group := by
  have present : group ∈ replaceRow ADGroup.id group tables.adGroups :=
    mem_replaceRow_self ⟨existing, listed, id.symm⟩
  have same : ∀ other ∈ tables.adGroups, other.id = group.id → other = existing :=
    fun other there equal => List.inj_on_of_nodup_map valid.adGroupId there listed (equal.trans id)
  have frame : GroupFrame tables
      { tables with adGroups := replaceRow ADGroup.id group tables.adGroups } := by
    refine ⟨rfl, rfl, fun row there => ?_⟩
    by_cases replaced : row.id = group.id
    · obtain rfl := same row there replaced
      exact ⟨group, present, id, sid⟩
    · exact ⟨row, mem_replaceRow_of_ne there replaced, rfl, rfl⟩
  have row : ∃ row ∈ replaceRow ADGroup.id group tables.adGroups,
      row.id = group.id ∧ row.sid = group.sid := ⟨group, present, rfl, rfl⟩
  refine ⟨{ valid with adGroupId := ?_, sid := ?_, adGroupSequence := ?_ },
    (remembered.frame frame).set row, frame, rfl, row⟩
  · rw [map_key_replaceRow]
    exact valid.adGroupId
  · rw [List.Nodup, List.pairwise_map]
    refine pairwise_replaceRow valid.adGroupId (List.pairwise_map.mp valid.sid)
      (fun _ _ different => different.symm) fun other there different equal => different ?_
    rw [id, List.inj_on_of_nodup_map valid.sid there listed (equal.trans sid)]
  · intro other there
    rcases mem_replaceRow there with rfl | ⟨before, -⟩
    · rw [id]
      exact valid.adGroupSequence existing listed
    · exact valid.adGroupSequence other before

/-- The group row holds what a group record gives. -/
structure FromRecord (record : ADGroupRecord) (group : ADGroup) : Prop where
  /-- The SID. -/
  sid : group.sid = record.sid
  /-- The DN. -/
  distinguishedName : group.distinguishedName = record.distinguishedName
  /-- The name. -/
  name : group.name = record.name

/-- What looking a group up can do: the run knows it, or its row is brought up to date, or it gets
a row. A row that is written fits its columns. -/
theorem findOrCreateGroup_cases {known later : GroupsBySid} {record : ADGroupRecord}
    {group : ADGroup}
    (found : findOrCreateGroup now tables known record = .ok (after, later, group)) :
    (known.get? record.sid = some group ∧ after = tables ∧ later = known) ∨
    (known.get? record.sid = none ∧ later = known.set record.sid group ∧
      FromRecord record group ∧ group.fits = true ∧
      ((∃ existing ∈ tables.adGroups, existing.sid = record.sid ∧ group.id = existing.id ∧
          after = { tables with adGroups := replaceRow ADGroup.id group tables.adGroups }) ∨
        ((∀ other ∈ tables.adGroups, other.sid ≠ record.sid) ∧
          after = { tables with
            adGroups := tables.adGroups ++ [group]
            nextAdGroupId := tables.nextAdGroupId + 1 }))) := by
  cases cached : known.get? record.sid with
  | some row =>
    simp only [findOrCreateGroup, cached] at found
    cases found
    exact .inl ⟨rfl, rfl, rfl⟩
  | none =>
    simp only [findOrCreateGroup, cached] at found
    obtain ⟨selected, queried, rest⟩ := bind_eq_ok.mp found
    have rows := syncOneOrNone_eq_ok.mp queried
    cases selected with
    | none =>
      dsimp only at rest
      split at rest
      · cases rest
      · rename_i fits
        rw [Bool.not_eq_true, Bool.not_eq_false'] at fits
        split at rest
        · cases rest
        · cases rest
          refine .inr ⟨rfl, rfl, ⟨rfl, rfl, rfl⟩, fits, .inr ⟨fun other listed same => ?_, rfl⟩⟩
          have nobody := List.filter_eq_nil_iff.mp rows other listed
          exact nobody (decide_eq_true same)
    | some existing =>
      have selected : existing ∈ tables.adGroups.filter fun group => group.sid = record.sid := by
        rw [rows]
        exact List.mem_singleton_self existing
      obtain ⟨listed, same⟩ := List.mem_filter.mp selected
      have sid := of_decide_eq_true same
      dsimp only at rest
      split at rest
      · rename_i fits
        cases rest
        exact .inr ⟨rfl, rfl, ⟨sid, rfl, rfl⟩, fits, .inl ⟨existing, listed, sid, rfl, rfl⟩⟩
      · cases rest

/-- After a lookup the run knows the SID of the record besides those it knew. -/
theorem findOrCreateGroup_known {known later : GroupsBySid} {record : ADGroupRecord}
    {group : ADGroup}
    (found : findOrCreateGroup now tables known record = .ok (after, later, group)) (sid : String) :
    (later.get? sid).isSome = true ↔ (known.get? sid).isSome = true ∨ sid = record.sid := by
  rcases findOrCreateGroup_cases found with ⟨cached, -, rfl⟩ | ⟨-, rfl, -⟩
  · constructor
    · exact .inl
    · rintro (knew | rfl)
      · exact knew
      · rw [cached]
        rfl
  · rw [Dict.get?_set]
    by_cases same : sid = record.sid
    · simp [same]
    · simp [same]

/-- A group row with the values of the record fits its columns. -/
def GroupRecordFits (record : ADGroupRecord) : Prop :=
  textFits (some 64) (some record.sid) = true ∧
    textFits (some 1024) (some record.distinguishedName) = true ∧
      textFits (some 256) record.name = true

/-- A row that holds the record fits when the record does. -/
theorem FromRecord.fits_iff {record : ADGroupRecord} {group : ADGroup}
    (values : FromRecord record group) : group.fits = true ↔ GroupRecordFits record := by
  rw [ADGroup.fits, values.sid, values.distinguishedName, values.name, Bool.and_eq_true,
    Bool.and_eq_true, and_assoc]
  rfl

/-- A record that is written fits its columns. -/
theorem findOrCreateGroup_fits {known later : GroupsBySid} {record : ADGroupRecord}
    {group : ADGroup}
    (found : findOrCreateGroup now tables known record = .ok (after, later, group))
    (unknown : known.get? record.sid = none) : GroupRecordFits record := by
  rcases findOrCreateGroup_cases found with ⟨cached, -⟩ | ⟨-, -, values, fits, -⟩
  · rw [unknown] at cached
    cases cached
  · exact values.fits_iff.mp fits

/-- Looking a group up succeeds when the run knows it or its values fit. -/
theorem findOrCreateGroup_found (now : Nat) {groupsBySid : GroupsBySid} (record : ADGroupRecord)
    (valid : tables.Valid fold) (remembered : Remembered tables groupsBySid)
    (fits : groupsBySid.get? record.sid = none → GroupRecordFits record) :
    ∃ after known group,
      findOrCreateGroup now tables groupsBySid record = .ok (after, known, group) ∧
        GroupFound fold tables after known record.sid group := by
  cases cached : groupsBySid.get? record.sid with
  | some group =>
    refine ⟨tables, groupsBySid, group, by simp only [findOrCreateGroup, cached], ?_⟩
    exact ⟨valid, remembered, .refl tables, rfl, remembered record.sid group cached⟩
  | none =>
    by_cases stored : ∃ existing ∈ tables.adGroups, existing.sid = record.sid
    · obtain ⟨existing, listed, sid⟩ := stored
      have alone : tables.adGroups.filter (fun group => group.sid = record.sid) = [existing] := by
        refine filter_eq_singleton ((List.pairwise_map.mp valid.sid).imp fun apart met => ?_)
          listed (decide_eq_true sid)
        exact apart ((of_decide_eq_true met.1).trans (of_decide_eq_true met.2).symm)
      let group : ADGroup := { existing with
        distinguishedName := record.distinguishedName
        name := record.name
        lastSeenInSyncAt := some now }
      have values : FromRecord record group := ⟨sid, rfl, rfl⟩
      have look := @updateGroup_found fold tables groupsBySid existing group valid remembered listed
        rfl rfl
      rw [show group.sid = record.sid from sid] at look
      refine ⟨_, _, group, ?_, look⟩
      simp only [findOrCreateGroup, cached, alone]
      exact if_pos (values.fits_iff.mpr (fits cached))
    · have unused : ∀ other ∈ tables.adGroups, other.sid ≠ record.sid :=
        fun other listed same => stored ⟨other, listed, same⟩
      have nobody : tables.adGroups.filter (fun group => group.sid = record.sid) = [] :=
        List.filter_eq_nil_iff.mpr fun other listed => by simpa using unused other listed
      have free : ¬tables.adGroups.any fun other => other.sid = record.sid := by
        simpa using unused
      let group : ADGroup :=
        ⟨tables.nextAdGroupId, record.sid, record.distinguishedName, record.name, some now⟩
      have values : FromRecord record group := ⟨rfl, rfl, rfl⟩
      have stored : ¬(!group.fits) = true := by
        rw [values.fits_iff.mpr (fits cached)]
        decide
      have look := insertGroup_found group valid remembered rfl unused
      refine ⟨_, _, group, ?_, look⟩
      simp only [findOrCreateGroup, cached, nobody]
      exact (if_neg stored).trans (if_neg free)

/-- Adding a group looks it up and adds a new edge. -/
theorem addUserGroup_cases {userId : Nat} {record : ADGroupRecord}
    {state next : IdentityTables × GroupsBySid}
    (added : addUserGroup now userId state record = .ok next) :
    ∃ middle found group,
      findOrCreateGroup now state.1 state.2 record = .ok (middle, found, group) ∧
      next = ({ middle with
        userAdGroups := middle.userAdGroups ++ [⟨userId, group.id⟩] }, found) := by
  obtain ⟨⟨middle, found, group⟩, looked, rest⟩ := bind_eq_ok.mp added
  dsimp only at rest
  split at rest
  · cases rest
  · cases rest
    exact ⟨middle, found, group, looked, rfl⟩

/-- Adding a group looks it up and meets the primary key of `user_ad_group`. -/
theorem addUserGroup_eq (now : Nat) {groupsBySid : GroupsBySid} (userId : Nat)
    (record : ADGroupRecord) (valid : tables.Valid fold) (remembered : Remembered tables groupsBySid)
    (fits : groupsBySid.get? record.sid = none → GroupRecordFits record) :
    ∃ middle known group, GroupFound fold tables middle known record.sid group ∧
      addUserGroup now userId (tables, groupsBySid) record =
        if ⟨userId, group.id⟩ ∈ middle.userAdGroups then
          .error (.uniqueViolation .userAdGroup)
        else
          .ok ({ middle with userAdGroups := middle.userAdGroups ++ [⟨userId, group.id⟩] },
            known) := by
  obtain ⟨middle, known, group, found, look⟩ :=
    findOrCreateGroup_found now record valid remembered fits
  refine ⟨middle, known, group, look, ?_⟩
  simp only [addUserGroup, found]
  rfl

/-- The tables between two groups of a record, after a change to these. -/
structure GroupsKept (fold : CaseFolding) (before : IdentityTables)
    (state : IdentityTables × GroupsBySid) : Prop where
  /-- The constraints hold. -/
  valid : state.1.Valid fold
  /-- The run remembers rows. -/
  remembered : Remembered state.1 state.2
  /-- Users and groups stay. -/
  frame : GroupFrame before state.1

/-- A new membership of a group that was looked up. -/
theorem GroupFound.addEdge {before middle : IdentityTables} {known : GroupsBySid} {sid : String}
    {group : ADGroup} {userId : Nat} (look : GroupFound fold before middle known sid group)
    (absent : (⟨userId, group.id⟩ : UserADGroup) ∉ middle.userAdGroups) :
    GroupsKept fold before
      ({ middle with userAdGroups := middle.userAdGroups ++ [⟨userId, group.id⟩] }, known) := by
  refine ⟨{ look.valid with userAdGroup := pairwise_insertRow look.valid.userAdGroup ?_ },
    look.remembered, ⟨look.frame.users, look.frame.nextUserId, look.frame.adGroups⟩⟩
  rintro edge listed rfl
  exact absent listed

/-- Adding a group keeps the tables. -/
theorem addUserGroup_kept {userId : Nat} {record : ADGroupRecord} {before : IdentityTables}
    {state next : IdentityTables × GroupsBySid} (kept : GroupsKept fold before state)
    (added : addUserGroup now userId state record = .ok next) : GroupsKept fold before next := by
  obtain ⟨_, _, _, looked, -⟩ := addUserGroup_cases added
  obtain ⟨middle, known, group, look, same⟩ :=
    addUserGroup_eq now userId record kept.valid kept.remembered (findOrCreateGroup_fits looked)
  rw [same] at added
  split at added
  · cases added
  · rename_i absent
    cases added
    have step := look.addEdge absent
    exact ⟨step.valid, step.remembered, kept.frame.trans step.frame⟩

/-- The membership rows of a user all point at groups with these SIDs. -/
def MemberOf (tables : IdentityTables) (userId : Nat) (sids : List String) : Prop :=
  ∀ edge ∈ tables.userAdGroups, edge.userId = userId →
    ∃ row ∈ tables.adGroups, row.id = edge.adGroupId ∧ row.sid ∈ sids

/-- Memberships keep their groups when no group goes. -/
theorem MemberOf.frame {before after : IdentityTables} {userId : Nat} {sids : List String}
    (members : MemberOf before userId sids) (frame : GroupFrame before after)
    (edges : after.userAdGroups = before.userAdGroups) : MemberOf after userId sids := by
  intro edge listed own
  obtain ⟨row, there, id, sid⟩ := members edge (edges ▸ listed) own
  obtain ⟨same, still, sameId, sameSid⟩ := frame.adGroups row there
  exact ⟨same, still, sameId.trans id, sameSid.symm ▸ sid⟩

/-- Adding a group under a new SID succeeds when the run knows it or its values fit. -/
theorem addUserGroup_added (now : Nat) {groupsBySid : GroupsBySid} {userId : Nat}
    {sids : List String} (record : ADGroupRecord) (valid : tables.Valid fold)
    (remembered : Remembered tables groupsBySid) (members : MemberOf tables userId sids)
    (newSid : record.sid ∉ sids)
    (fits : groupsBySid.get? record.sid = none → GroupRecordFits record) :
    ∃ next, addUserGroup now userId (tables, groupsBySid) record = .ok next ∧
      GroupsKept fold tables next ∧ MemberOf next.1 userId (record.sid :: sids) := by
  obtain ⟨middle, known, group, look, same⟩ :=
    addUserGroup_eq now userId record valid remembered fits
  obtain ⟨row, there, rowId, rowSid⟩ := look.row
  have earlier : MemberOf middle userId sids := members.frame look.frame look.userAdGroups
  have absent : (⟨userId, group.id⟩ : UserADGroup) ∉ middle.userAdGroups := by
    intro present
    obtain ⟨other, listed, otherId, otherSid⟩ := earlier _ present rfl
    have equal : other = row := List.inj_on_of_nodup_map look.valid.adGroupId listed there
      (otherId.trans rowId.symm)
    rw [equal, rowSid] at otherSid
    exact newSid otherSid
  refine ⟨_, same.trans (if_neg absent), look.addEdge absent, fun edge listed own => ?_⟩
  rcases List.mem_append.mp listed with before | last
  · obtain ⟨other, present, otherId, otherSid⟩ := earlier edge before own
    exact ⟨other, present, otherId, List.mem_cons_of_mem _ otherSid⟩
  · obtain rfl := List.mem_singleton.mp last
    exact ⟨row, there, rowId, rowSid ▸ List.mem_cons_self⟩

/-- After a group is added the run knows its SID besides those it knew. -/
theorem addUserGroup_known {userId : Nat} {record : ADGroupRecord}
    {state next : IdentityTables × GroupsBySid}
    (added : addUserGroup now userId state record = .ok next) (sid : String) :
    next.2.get? sid = none ↔ state.2.get? sid = none ∧ sid ≠ record.sid := by
  obtain ⟨middle, found, group, looked, rfl⟩ := addUserGroup_cases added
  have known := findOrCreateGroup_known looked sid
  rw [← not_iff_not, ← ne_eq, Option.ne_none_iff_isSome, known, not_and_or, ← ne_eq,
    Option.ne_none_iff_isSome, not_ne_iff]

/-- The groups of the record that the run does not know yet fit their columns. -/
def NewGroupsFit (groupsBySid : GroupsBySid) (records : List ADGroupRecord) : Prop :=
  ∀ record ∈ records, groupsBySid.get? record.sid = none → GroupRecordFits record

/-- Adding groups under distinct new SIDs succeeds when those that the run does not know fit. -/
theorem addUserGroups_added {groupsBySid : GroupsBySid} {userId : Nat} (sids : List String)
    {records : List ADGroupRecord} (valid : tables.Valid fold)
    (remembered : Remembered tables groupsBySid) (members : MemberOf tables userId sids)
    (newSids : ∀ record ∈ records, record.sid ∉ sids)
    (distinct : (records.map ADGroupRecord.sid).Nodup) (fits : NewGroupsFit groupsBySid records) :
    ∃ next, records.foldlM (addUserGroup now userId) (tables, groupsBySid) = .ok next := by
  induction records generalizing tables groupsBySid sids with
  | nil => exact ⟨_, rfl⟩
  | cons record records ih =>
    rw [List.map_cons, List.nodup_cons] at distinct
    obtain ⟨next, added, kept, more⟩ := addUserGroup_added now record valid remembered
      members (newSids record List.mem_cons_self) (fits record List.mem_cons_self)
    have others : ∀ later ∈ records, later.sid ∉ record.sid :: sids := by
      intro later listed found
      rcases List.mem_cons.mp found with same | old
      · exact distinct.1 (same ▸ List.mem_map_of_mem listed)
      · exact newSids later (List.mem_cons_of_mem _ listed) old
    have fitToo : NewGroupsFit next.2 records := fun later listed unknown =>
      fits later (List.mem_cons_of_mem _ listed) ((addUserGroup_known added later.sid).mp unknown).1
    obtain ⟨final, rest⟩ :=
      ih (record.sid :: sids) kept.valid kept.remembered more others distinct.2 fitToo
    refine ⟨final, ?_⟩
    rw [List.foldlM_cons]
    exact bind_eq_ok.mpr ⟨next, added, rest⟩

/-- Groups with distinct SIDs that were added fit, unless the run knew them. -/
theorem addUserGroups_fit {userId : Nat} {records : List ADGroupRecord}
    {state final : IdentityTables × GroupsBySid} (distinct : (records.map ADGroupRecord.sid).Nodup)
    (added : records.foldlM (addUserGroup now userId) state = .ok final) :
    NewGroupsFit state.2 records := by
  induction records generalizing state with
  | nil => exact fun record listed => absurd listed List.not_mem_nil
  | cons record records ih =>
    rw [List.map_cons, List.nodup_cons] at distinct
    rw [List.foldlM_cons] at added
    obtain ⟨next, first, rest⟩ := bind_eq_ok.mp added
    intro later listed unknown
    rcases List.mem_cons.mp listed with rfl | more
    · obtain ⟨_, _, _, looked, -⟩ := addUserGroup_cases first
      exact findOrCreateGroup_fits looked unknown
    · have different : later.sid ≠ record.sid := fun same =>
        distinct.1 (same ▸ List.mem_map_of_mem more)
      exact ih distinct.2 rest later more ((addUserGroup_known first later.sid).mpr
        ⟨unknown, different⟩)

/-- Dropping the memberships of a user keeps the rest. -/
theorem dropUserGroups_kept {groupsBySid : GroupsBySid} (userId : Nat) (valid : tables.Valid fold)
    (remembered : Remembered tables groupsBySid) :
    GroupsKept fold tables (dropUserGroups userId tables, groupsBySid) :=
  ⟨{ valid with userAdGroup := valid.userAdGroup.filter _ }, remembered,
    ⟨rfl, rfl, fun row listed => ⟨row, listed, rfl, rfl⟩⟩⟩

/-- Replacing memberships keeps the rest. -/
theorem replaceUserGroups_kept {groupsBySid : GroupsBySid} {userId : Nat}
    {records : List ADGroupRecord} {next : IdentityTables × GroupsBySid}
    (valid : tables.Valid fold) (remembered : Remembered tables groupsBySid)
    (replaced : replaceUserGroups now userId (tables, groupsBySid) records = .ok next) :
    GroupsKept fold tables next :=
  Step.run_invariant (GroupsKept fold tables)
    (fun _ _ _ kept stepped => addUserGroup_kept kept (passes_eq_some.mp stepped))
    (dropUserGroups_kept userId valid remembered) (foldlM_eq_ok.mp replaced)

/-- Replacing memberships by groups with distinct SIDs succeeds when those that the run does not know
fit. -/
theorem replaceUserGroups_replaced (now : Nat) {groupsBySid : GroupsBySid} (userId : Nat)
    {records : List ADGroupRecord} (valid : tables.Valid fold)
    (remembered : Remembered tables groupsBySid)
    (distinct : (records.map ADGroupRecord.sid).Nodup) (fits : NewGroupsFit groupsBySid records) :
    ∃ next, replaceUserGroups now userId (tables, groupsBySid) records = .ok next := by
  have dropped := dropUserGroups_kept userId valid remembered
  refine addUserGroups_added [] dropped.valid dropped.remembered ?_
    (fun _ _ => List.not_mem_nil) distinct fits
  intro edge listed own
  exact absurd own (of_decide_eq_true (List.mem_filter.mp listed).2)

/-! ## A record and a run -/

/-- What holds between two records. -/
structure SyncInvariant (fold : CaseFolding) (state : SyncState) : Prop where
  /-- The constraints hold. -/
  valid : state.tables.Valid fold
  /-- The run remembers rows. -/
  remembered : Remembered state.tables state.groupsBySid

/-- A run begins on valid tables without remembering anything. -/
theorem syncInvariant_initial (startedAt : Nat) (valid : tables.Valid fold) :
    SyncInvariant fold (.initial startedAt tables) :=
  ⟨valid, fun _ _ known => nomatch known⟩

/-- What is remembered survives the writing of a row. -/
theorem Remembered.upsert {groupsBySid : GroupsBySid} {record : ADUserRecord} {user : User}
    {inserted : Bool} (remembered : Remembered tables groupsBySid)
    (written : upsertUser fold tables record now = .ok (after, user, inserted)) :
    Remembered after groupsBySid := by
  unfold Remembered
  rw [upsertUser_adGroups written]
  exact remembered

/-- What a record that passes does: its row is written, and its groups replace those of the row. -/
theorem syncRecord_cases {state next : SyncState} {record : ADUserRecord}
    (passed : syncRecord fold now state record = .ok next) :
    ∃ written user inserted last known,
      upsertUser fold state.tables record now = .ok (written, user, inserted) ∧
        replaceUserGroups now user.id (written, state.groupsBySid) record.groups =
          .ok (last, known) ∧
        next =
          { tables := last
            groupsBySid := known
            seenUserIds := user.id :: state.seenUserIds
            result := { state.result with
              usersSeen := state.result.usersSeen + 1
              usersInserted := state.result.usersInserted + if inserted then 1 else 0
              usersUpdated := state.result.usersUpdated + if inserted then 0 else 1
              edgesTotal := state.result.edgesTotal + record.groups.length } } := by
  obtain ⟨⟨written, user, inserted⟩, upserted, rest⟩ := bind_eq_ok.mp passed
  obtain ⟨⟨last, known⟩, replaced, rfl⟩ := map_eq_ok.mp rest
  exact ⟨written, user, inserted, last, known, upserted, replaced, rfl⟩

/-- A record writes its row, and its groups leave the users as they are. -/
theorem syncRecord_written {state next : SyncState} {record : ADUserRecord}
    (kept : SyncInvariant fold state) (passed : syncRecord fold now state record = .ok next) :
    ∃ written user inserted,
      upsertUser fold state.tables record now = .ok (written, user, inserted) ∧
        next.tables.users = written.users ∧ SyncInvariant fold next := by
  obtain ⟨written, user, inserted, last, known, upserted, replaced, rfl⟩ := syncRecord_cases passed
  have groups := replaceUserGroups_kept (upsertUser_valid kept.valid upserted)
    (kept.remembered.upsert upserted) replaced
  exact ⟨written, user, inserted, upserted, groups.frame.users, ⟨groups.valid, groups.remembered⟩⟩

/-- A record with distinct SIDs passes exactly when its row can be written and its groups fit where
the run does not know them. -/
theorem syncRecord_passes_iff {state : SyncState} {record : ADUserRecord}
    (kept : SyncInvariant fold state) (distinct : (record.groups.map ADGroupRecord.sid).Nodup) :
    (∃ next, syncRecord fold now state record = .ok next) ↔
      (∃ written, upsertUser fold state.tables record now = .ok written) ∧
        NewGroupsFit state.groupsBySid record.groups := by
  constructor
  · rintro ⟨next, passed⟩
    obtain ⟨written, user, inserted, last, known, upserted, replaced, -⟩ := syncRecord_cases passed
    exact ⟨⟨(written, user, inserted), upserted⟩, addUserGroups_fit distinct replaced⟩
  · rintro ⟨⟨⟨written, user, inserted⟩, upserted⟩, fits⟩
    obtain ⟨groups, replaced⟩ := replaceUserGroups_replaced now user.id
      (upsertUser_valid kept.valid upserted) (kept.remembered.upsert upserted) distinct fits
    exact ⟨_, bind_eq_ok.mpr ⟨_, upserted, map_eq_ok.mpr ⟨groups, replaced, rfl⟩⟩⟩

/-- The end of a run changes no id, name or GUID. -/
theorem finishSync_users (finishedAt : Nat) (state : SyncState) :
    ∃ change : User → User, (∀ user, (change user).id = user.id ∧
        (change user).samAccountName = user.samAccountName ∧
        (change user).adObjectGuid = user.adObjectGuid) ∧
      (finishSync finishedAt state).1 =
        { state.tables with users := state.tables.users.map change } := by
  by_cases empty : state.seenUserIds = []
  · refine ⟨id, fun _ => ⟨rfl, rfl, rfl⟩, ?_⟩
    simp [finishSync, empty]
  · refine ⟨fun user =>
      if isStale state.seenUserIds user then { user with enabled := false } else user,
      fun user => ?_, by simp [finishSync, empty]⟩
    dsimp only
    split <;> exact ⟨rfl, rfl, rfl⟩

/-- The end of a run keeps the tables valid. -/
theorem finishSync_valid {state : SyncState} (finishedAt : Nat) (valid : state.tables.Valid fold) :
    (finishSync finishedAt state).1.Valid fold := by
  obtain ⟨change, same, finished⟩ := finishSync_users finishedAt state
  rw [finished]
  refine valid_withUsers valid ?_ ?_ ?_
  · have ids : User.id ∘ change = User.id := funext fun user => (same user).1
    rw [List.map_map, ids]
    exact valid.userId
  · refine List.pairwise_map.mpr ((users_distinct valid).imp fun {left right} apart => ?_)
    obtain ⟨-, leftName, leftGuid⟩ := same left
    obtain ⟨-, rightName, rightGuid⟩ := same right
    exact ⟨by rw [leftName, rightName]; exact apart.samAccountName,
      by rw [leftName, rightName]; exact apart.lower,
      by rw [leftGuid, rightGuid]; exact apart.adObjectGuid⟩
  · intro user listed
    obtain ⟨before, there, rfl⟩ := List.mem_map.mp listed
    rw [(same before).1]
    exact valid.userSequence before there

/-- The records of a run that does not raise, and its end. -/
theorem runSync_eq_ok {call : SyncCall} {committed : IdentityTables} {result : SyncResult} :
    runSync fold tables call = .ok (committed, result) ↔
      ∃ last, (recordStep fold call.now).run (.initial call.startedAt tables) call.records =
        some last ∧ finishSync call.finishedAt last = (committed, result) := by
  simp only [runSync, map_eq_ok, foldlM_eq_ok, recordStep]

/-- Every record keeps the invariant. -/
theorem syncInvariant_step (state : SyncState) (record : ADUserRecord) (next : SyncState)
    (kept : SyncInvariant fold state) (stepped : recordStep fold now state record = some next) :
    SyncInvariant fold next := by
  obtain ⟨_, _, _, _, _, invariant⟩ := syncRecord_written kept (passes_eq_some.mp stepped)
  exact invariant

/-- A committed run leaves valid tables. -/
theorem runSync_valid {call : SyncCall} {committed : IdentityTables} {result : SyncResult}
    (valid : tables.Valid fold) (ran : runSync fold tables call = .ok (committed, result)) :
    committed.Valid fold := by
  obtain ⟨last, passed, finished⟩ := runSync_eq_ok.mp ran
  have kept : SyncInvariant fold last :=
    Step.run_invariant _ syncInvariant_step (syncInvariant_initial call.startedAt valid) passed
  have same : (finishSync call.finishedAt last).1 = committed := by rw [finished]
  exact same ▸ finishSync_valid call.finishedAt kept.valid

/-- The tables after any number of successful runs on a new installation. -/
inductive Reachable (fold : CaseFolding) : IdentityTables → Prop where
  /-- A new installation. -/
  | empty : Reachable fold .empty
  /-- A further run. -/
  | sync {before committed : IdentityTables} (call : SyncCall) {result : SyncResult}
    (reached : Reachable fold before)
    (ran : runSync fold before call = .ok (committed, result)) : Reachable fold committed

/-- Reachable tables meet their constraints. -/
theorem reachable_valid (reached : Reachable fold tables) : tables.Valid fold := by
  induction reached with
  | empty =>
    exact ⟨List.nodup_nil, List.nodup_nil, List.nodup_nil, List.nodup_nil, List.nodup_nil,
      List.nodup_nil, List.nodup_nil, (fun _ listed => nomatch listed),
      (fun _ listed => nomatch listed)⟩
  | sync call reached ran ih => exact runSync_valid ih ran

end TacacsWeb.Verif
