import TacacsWeb.Verif.SyncTables

/-!
# Groups and memberships of a record

What replacing the memberships of one user does to `ad_group` and `user_ad_group`: the edges of
other users stay, the user gets an edge to the group of every SID of the record, and a group
takes over the DN and name of a record that gives its SID, once in a run.
-/

namespace TacacsWeb.Verif

open TacacsWeb.Library TacacsWeb.Model

variable {fold : CaseFolding} {tables after : IdentityTables} {now : Nat}
  {known later : GroupsBySid}

/-! ## Memberships of one user -/

/-- The ids and SIDs of the groups, in order. -/
def groupKeys (tables : IdentityTables) : List (Nat × String) :=
  tables.adGroups.map fun group => (group.id, group.sid)

/-- The edges of other users are the same. -/
def OtherEdges (userId : Nat) (before after : IdentityTables) : Prop :=
  ∀ edge : UserADGroup, edge.userId ≠ userId →
    (edge ∈ after.userAdGroups ↔ edge ∈ before.userAdGroups)

/-- Every SID has a group, and a user is a member of exactly the groups with these SIDs. -/
structure MemberOfExactly (tables : IdentityTables) (userId : Nat) (sids : List String) : Prop where
  /-- Every SID has a row. -/
  row : ∀ sid ∈ sids, ∃ group ∈ tables.adGroups, group.sid = sid
  /-- The edges lead to the groups with these SIDs. -/
  edge : ∀ id, (⟨userId, id⟩ : UserADGroup) ∈ tables.userAdGroups ↔
    ∃ group ∈ tables.adGroups, group.id = id ∧ group.sid ∈ sids

/-- No group loses its id or SID. -/
def GroupsStay (before after : IdentityTables) : Prop :=
  ∀ row ∈ before.adGroups, ∃ same ∈ after.adGroups, same.id = row.id ∧ same.sid = row.sid

/-- Groups that stay in two changes stay in one after the other. -/
theorem GroupsStay.trans {before middle after : IdentityTables} (first : GroupsStay before middle)
    (second : GroupsStay middle after) : GroupsStay before after := by
  intro row listed
  obtain ⟨same, there, id, sid⟩ := first row listed
  obtain ⟨last, still, lastId, lastSid⟩ := second same there
  exact ⟨last, still, lastId.trans id, lastSid.trans sid⟩

/-- The groups with given SIDs stay the same where groups keep their ids and SIDs. -/
theorem sidRows_frame {before after : IdentityTables} {sids : List String}
    (valid : after.Valid fold) (stay : GroupsStay before after)
    (rows : ∀ sid ∈ sids, ∃ group ∈ before.adGroups, group.sid = sid) (id : Nat) :
    (∃ group ∈ after.adGroups, group.id = id ∧ group.sid ∈ sids) ↔
      ∃ group ∈ before.adGroups, group.id = id ∧ group.sid ∈ sids := by
  constructor
  · rintro ⟨group, listed, rfl, given⟩
    obtain ⟨old, there, same⟩ := rows group.sid given
    obtain ⟨kept, still, keptId, keptSid⟩ := stay old there
    have equal : kept = group :=
      List.inj_on_of_nodup_map valid.sid still listed (keptSid.trans same)
    exact ⟨old, there, by rw [← keptId, equal], by rw [same]; exact given⟩
  · rintro ⟨group, listed, rfl, given⟩
    obtain ⟨kept, still, keptId, keptSid⟩ := stay group listed
    exact ⟨kept, still, keptId, by rw [keptSid]; exact given⟩

/-- Memberships of a user stay exact where the groups keep their ids and SIDs and the user keeps
the edges. -/
theorem MemberOfExactly.frame {before after : IdentityTables} {userId : Nat} {sids : List String}
    (member : MemberOfExactly before userId sids) (valid : after.Valid fold)
    (stay : GroupsStay before after)
    (edges : ∀ id, (⟨userId, id⟩ : UserADGroup) ∈ after.userAdGroups ↔
      (⟨userId, id⟩ : UserADGroup) ∈ before.userAdGroups) :
    MemberOfExactly after userId sids := by
  refine ⟨fun sid given => ?_, fun id => ?_⟩
  · obtain ⟨group, listed, same⟩ := member.row sid given
    obtain ⟨kept, still, -, keptSid⟩ := stay group listed
    exact ⟨kept, still, keptSid.trans same⟩
  · rw [edges id, member.edge id, sidRows_frame valid stay member.row id]

/-! ## The groups that a run has written -/

/-- What a run that has met these group records has made of the groups it found. -/
structure GroupsWritten (start : IdentityTables) (given : List ADGroupRecord)
    (state : IdentityTables × GroupsBySid) : Prop where
  /-- The run knows the SIDs it has met. -/
  known : ∀ sid, (state.2.get? sid).isSome = true ↔ ∃ record ∈ given, record.sid = sid
  /-- A group holds what a record gave, or no record gave its SID and it is as it was. -/
  written : ∀ row ∈ state.1.adGroups, (∃ record ∈ given, FromRecord record row) ∨
    row ∈ start.adGroups ∧ ∀ record ∈ given, record.sid ≠ row.sid

/-- Looking a group up writes its record. -/
theorem GroupsWritten.lookup {start : IdentityTables} {given : List ADGroupRecord}
    {record : ADGroupRecord} {group : ADGroup} (before : GroupsWritten start given (tables, known))
    (valid : tables.Valid fold)
    (found : findOrCreateGroup now tables known record = .ok (after, later, group)) :
    GroupsWritten start (given ++ [record]) (after, later) := by
  have more : ∀ row, (∃ earlier ∈ given, FromRecord earlier row) →
      ∃ earlier ∈ given ++ [record], FromRecord earlier row :=
    fun row ⟨earlier, listed, values⟩ => ⟨earlier, List.mem_append_left _ listed, values⟩
  refine ⟨fun sid => ?_, fun row listed => ?_⟩
  · rw [findOrCreateGroup_known found, before.known]
    simp [or_and_right, exists_or, eq_comm]
  · rcases findOrCreateGroup_cases found with
      ⟨cached, rfl, -⟩ | ⟨unknown, -, values, -, written⟩
    · obtain ⟨earlier, met, same⟩ := (before.known record.sid).mp (by rw [cached]; rfl)
      refine (before.written row listed).imp (more row) fun ⟨old, unmet⟩ => ⟨old, ?_⟩
      intro other present
      rcases List.mem_append.mp present with first | last
      · exact unmet other first
      · obtain rfl := List.mem_singleton.mp last
        exact same ▸ unmet earlier met
    · have own : FromRecord record row ∨ row ∈ tables.adGroups ∧ row.sid ≠ record.sid := by
        rcases written with ⟨existing, there, sid, id, rfl⟩ | ⟨missing, rfl⟩
        · rcases mem_replaceRow listed with rfl | ⟨old, different⟩
          · exact .inl values
          · refine .inr ⟨old, fun same => different ?_⟩
            rw [id, List.inj_on_of_nodup_map valid.sid old there (same.trans sid.symm)]
        · rcases List.mem_append.mp listed with old | last
          · exact .inr ⟨old, missing row old⟩
          · obtain rfl := List.mem_singleton.mp last
            exact .inl values
      rcases own with new | ⟨old, different⟩
      · exact .inl ⟨record, List.mem_append_right _ (List.mem_singleton_self record), new⟩
      · refine (before.written row old).imp (more row) fun ⟨there, unmet⟩ => ⟨there, ?_⟩
        intro other present
        rcases List.mem_append.mp present with first | last
        · exact unmet other first
        · obtain rfl := List.mem_singleton.mp last
          exact different.symm

/-! ## The groups of one record -/

/-- What a lookup leaves, for the lookup that was made. -/
theorem findOrCreateGroup_spec {record : ADGroupRecord} {group : ADGroup}
    (valid : tables.Valid fold) (remembered : Remembered tables known)
    (found : findOrCreateGroup now tables known record = .ok (after, later, group)) :
    GroupFound fold tables after later record.sid group := by
  obtain ⟨_, _, _, same, look⟩ :=
    findOrCreateGroup_found now record valid remembered (findOrCreateGroup_fits found)
  rw [found] at same
  cases same
  exact look

/-- Every membership is one of a group that is there. -/
def Referenced (tables : IdentityTables) : Prop :=
  ∀ edge ∈ tables.userAdGroups, ∃ group ∈ tables.adGroups, group.id = edge.adGroupId

/-- A new membership is one of the group that was looked up. -/
theorem addUserGroup_referenced {userId : Nat} {record : ADGroupRecord} {before : IdentityTables}
    {state next : IdentityTables × GroupsBySid} (kept : GroupsKept fold before state)
    (referenced : Referenced state.1) (added : addUserGroup now userId state record = .ok next) :
    Referenced next.1 := by
  obtain ⟨middle, found, group, looked, rfl⟩ := addUserGroup_cases added
  have look := findOrCreateGroup_spec kept.valid kept.remembered looked
  intro edge listed
  rcases List.mem_append.mp listed with old | new
  · obtain ⟨row, there, same⟩ := referenced edge (look.userAdGroups ▸ old)
    obtain ⟨later, still, id, -⟩ := look.frame.adGroups row there
    exact ⟨later, still, id.trans same⟩
  · obtain rfl := List.mem_singleton.mp new
    obtain ⟨row, there, id, -⟩ := look.row
    exact ⟨row, there, id⟩

/-- Replacing the memberships of a user leaves memberships of groups that are there. -/
theorem replaceUserGroups_referenced {userId : Nat} {records : List ADGroupRecord}
    {next : IdentityTables × GroupsBySid} (valid : tables.Valid fold)
    (remembered : Remembered tables known) (referenced : Referenced tables)
    (replaced : replaceUserGroups now userId (tables, known) records = .ok next) :
    Referenced next.1 := by
  have dropped : Referenced (dropUserGroups userId tables) := fun edge listed =>
    referenced edge (List.mem_of_mem_filter listed)
  have both := Step.run_invariant (fun state => GroupsKept fold tables state ∧ Referenced state.1)
    (fun _ _ _ before stepped => by
      have added := passes_eq_some.mp stepped
      exact ⟨addUserGroup_kept before.1 added, addUserGroup_referenced before.1 before.2 added⟩)
    ⟨dropUserGroups_kept userId valid remembered, dropped⟩ (foldlM_eq_ok.mp replaced)
  exact both.2

/-- The tables after some groups of a record, in a run that had met some group records before. -/
structure GroupProgress (fold : CaseFolding) (start : IdentityTables)
    (given : List ADGroupRecord) (before : IdentityTables) (userId : Nat)
    (state : IdentityTables × GroupsBySid) (done : List ADGroupRecord) : Prop where
  /-- Users and groups stay, and the constraints hold. -/
  kept : GroupsKept fold before state
  /-- The groups met so far are written. -/
  written : GroupsWritten start (given ++ done) state
  /-- Other users keep their edges. -/
  others : OtherEdges userId before state.1
  /-- The user is a member of the groups met for this record. -/
  own : MemberOfExactly state.1 userId (done.map ADGroupRecord.sid)

/-- One more group of a record. -/
theorem GroupProgress.add {start before : IdentityTables} {given done : List ADGroupRecord}
    {userId : Nat} {record : ADGroupRecord} {state next : IdentityTables × GroupsBySid}
    (progress : GroupProgress fold start given before userId state done)
    (added : addUserGroup now userId state record = .ok next) :
    GroupProgress fold start given before userId next (done ++ [record]) := by
  have kept := addUserGroup_kept progress.kept added
  obtain ⟨middle, found, group, looked, rfl⟩ := addUserGroup_cases added
  have look := findOrCreateGroup_spec progress.kept.valid progress.kept.remembered looked
  have written := progress.written.lookup progress.kept.valid looked
  rw [List.append_assoc] at written
  refine ⟨kept, ⟨written.known, written.written⟩, fun edge different => ?_, fun sid listed => ?_,
    fun id => ?_⟩
  · rw [← progress.others edge different, ← look.userAdGroups, List.mem_append,
      List.mem_singleton]
    refine or_iff_left ?_
    rintro rfl
    exact different rfl
  · rw [List.map_append, List.mem_append] at listed
    rcases listed with old | new
    · obtain ⟨row, there, same⟩ := progress.own.row sid old
      obtain ⟨kept, still, -, keptSid⟩ := look.frame.adGroups row there
      exact ⟨kept, still, keptSid.trans same⟩
    · obtain ⟨row, there, -, same⟩ := look.row
      exact ⟨row, there, same.trans (List.mem_singleton.mp new).symm⟩
  · have earlier : (⟨userId, id⟩ : UserADGroup) ∈ middle.userAdGroups ↔
        ∃ row ∈ middle.adGroups, row.id = id ∧ row.sid ∈ done.map ADGroupRecord.sid := by
      rw [look.userAdGroups, progress.own.edge,
        sidRows_frame look.valid look.frame.adGroups progress.own.row id]
    obtain ⟨own, there, ownId, ownSid⟩ := look.row
    rw [List.mem_append, earlier, List.mem_singleton, List.map_append]
    constructor
    · rintro (⟨row, listed, same, sid⟩ | new)
      · exact ⟨row, listed, same, List.mem_append_left _ sid⟩
      · obtain rfl : id = group.id := congrArg UserADGroup.adGroupId new
        exact ⟨own, there, ownId, List.mem_append_right _ (List.mem_singleton.mpr ownSid)⟩
    · rintro ⟨row, listed, same, sid⟩
      rcases List.mem_append.mp sid with old | new
      · exact .inl ⟨row, listed, same, old⟩
      · have equal : row = own := List.inj_on_of_nodup_map look.valid.sid listed there
          ((List.mem_singleton.mp new).trans ownSid.symm)
        rw [← same, equal, ownId]
        exact .inr rfl

/-- All groups of a record, one by one. -/
theorem GroupProgress.addAll {start before : IdentityTables} {given done : List ADGroupRecord}
    {userId : Nat} {records : List ADGroupRecord} {state next : IdentityTables × GroupsBySid}
    (progress : GroupProgress fold start given before userId state done)
    (added : (passes (addUserGroup now userId)).run state records = some next) :
    GroupProgress fold start given before userId next (done ++ records) := by
  induction records generalizing state done with
  | nil =>
    obtain rfl := Option.some.inj added
    rwa [List.append_nil]
  | cons record records ih =>
    obtain ⟨middle, stepped, rest⟩ := Step.run_cons.mp added
    have more := ih (progress.add (passes_eq_some.mp stepped)) rest
    rwa [List.append_assoc] at more

/-- Replacing the memberships of a user: other users keep theirs, the user gets those of the
record, and the groups of the record are written. -/
theorem replaceUserGroups_spec {start : IdentityTables} {given : List ADGroupRecord}
    {userId : Nat} {records : List ADGroupRecord} {next : IdentityTables × GroupsBySid}
    (valid : tables.Valid fold) (remembered : Remembered tables known)
    (written : GroupsWritten start given (tables, known))
    (replaced : replaceUserGroups now userId (tables, known) records = .ok next) :
    GroupProgress fold start given tables userId next records := by
  have others : OtherEdges userId tables (dropUserGroups userId tables) := by
    intro edge different
    simp [dropUserGroups, different]
  have own : MemberOfExactly (dropUserGroups userId tables) userId
      (([] : List ADGroupRecord).map ADGroupRecord.sid) :=
    ⟨nofun, fun id => by simp [dropUserGroups]⟩
  have begun : GroupProgress fold start given tables userId
      (dropUserGroups userId tables, known) [] := by
    refine ⟨dropUserGroups_kept userId valid remembered, ?_, others, own⟩
    rw [List.append_nil]
    exact ⟨written.known, written.written⟩
  exact begun.addAll (foldlM_eq_ok.mp replaced)

end TacacsWeb.Verif
