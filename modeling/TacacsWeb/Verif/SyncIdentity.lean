import TacacsWeb.Verif.SyncTables

/-!
# Identity of synced users

Authorizations point at the id of a user row, so the row must go on standing for one AD object.
The name fallback overwrites the GUID of the row it finds, whatever it is: an account that
takes a name over from a departed one takes its row over too. Where the fallback only ever
finds rows without a GUID, no GUID changes in any sequence of runs.
-/

namespace TacacsWeb.Verif

open TacacsWeb.Library TacacsWeb.Model

variable {fold : CaseFolding} {tables after : IdentityTables} {now : Nat}

/-- Every row that carries a GUID is still there and carries the same one. -/
def GuidsStable (before after : IdentityTables) : Prop :=
  ∀ user ∈ before.users, ∀ guid, user.adObjectGuid = some guid →
    (∃ later ∈ after.users, later.id = user.id) ∧
      ∀ later ∈ after.users, later.id = user.id → later.adObjectGuid = some guid

/-- A record whose GUID no row carries meets only rows without a GUID under its name. -/
def NameUnclaimed (fold : CaseFolding) (state : SyncState) (record : ADUserRecord) : Prop :=
  ∀ guid, record.guid = some guid →
    (∀ user ∈ state.tables.users, user.adObjectGuid ≠ some guid) →
      ∀ user ∈ state.tables.users,
        fold.sql user.samAccountName = fold.python record.samAccountName →
          user.adObjectGuid = none

/-- Every record of the call meets only unclaimed names. -/
def NamesUnclaimed (fold : CaseFolding) (tables : IdentityTables) (call : SyncCall) : Prop :=
  (recordStep fold call.now).Admits (NameUnclaimed fold) (.initial call.startedAt tables)
    call.records

/-- In valid tables a name is unclaimed exactly when its record is not bound to the row of another
GUID. -/
theorem nameUnclaimed_iff {state : SyncState} {record : ADUserRecord}
    (valid : state.tables.Valid fold) :
    NameUnclaimed fold state record ↔
      ∀ user, findExistingUser fold state.tables.users record = .ok (some user) →
        ∀ guid, record.guid = some guid →
          user.adObjectGuid = none ∨ user.adObjectGuid = some guid := by
  constructor
  · intro unclaimed user found guid given
    obtain ⟨listed, ⟨other, same, carried⟩ | ⟨missing, name⟩⟩ := findExistingUser_some found
    · exact .inr (carried.trans (same.symm.trans given))
    · exact .inl (unclaimed guid given (missing guid given) user listed name)
  · intro bound guid given missing user listed name
    have absent : ∀ other, record.guid = some other →
        ∀ row ∈ state.tables.users, row.adObjectGuid ≠ some other := by
      intro other same
      obtain rfl := Option.some.inj (given.symm.trans same)
      exact missing
    cases chosen : findByName fold state.tables.users record with
    | none => exact absurd name (findByName_none chosen user listed)
    | some candidate =>
      obtain ⟨present, same⟩ := findByName_some chosen
      obtain rfl := eq_of_lower valid present listed (same.trans name.symm)
      have found := findExistingUser_byName fold absent
      rw [chosen] at found
      exact (bound candidate found guid given).resolve_right (missing candidate listed)

/-- The row of a GUID is among the rows afterwards. -/
def KeepsGuids (before after : IdentityTables) : Prop :=
  ∀ user ∈ before.users, ∀ guid, user.adObjectGuid = some guid →
    ∃ later ∈ after.users, later.id = user.id ∧ later.adObjectGuid = some guid

/-- GUIDs that two changes keep are kept by one after the other. -/
theorem KeepsGuids.trans {before middle after : IdentityTables} (first : KeepsGuids before middle)
    (second : KeepsGuids middle after) : KeepsGuids before after := by
  intro user listed guid carried
  obtain ⟨later, there, id, same⟩ := first user listed guid carried
  obtain ⟨last, still, lastId, lastGuid⟩ := second later there guid same
  exact ⟨last, still, lastId.trans id, lastGuid⟩

/-- Where ids are distinct, a row that is still there is the only one with its id. -/
theorem KeepsGuids.stable {before : IdentityTables} (kept : KeepsGuids before after)
    (valid : after.Valid fold) : GuidsStable before after := by
  intro user listed guid carried
  obtain ⟨later, there, id, same⟩ := kept user listed guid carried
  refine ⟨⟨later, there, id⟩, fun other present equal => ?_⟩
  rw [List.inj_on_of_nodup_map valid.userId present there (equal.trans id.symm)]
  exact same

/-- Writing a record to a row found by an unclaimed name keeps every GUID. -/
theorem upsertUser_keepsGuids {state : SyncState} {record : ADUserRecord} {user : User}
    {inserted : Bool} (valid : state.tables.Valid fold)
    (unclaimed : NameUnclaimed fold state record)
    (written : upsertUser fold state.tables record now = .ok (after, user, inserted)) :
    KeepsGuids state.tables after := by
  intro row listed guid carried
  rcases upsertUser_cases written with ⟨-, -, -, -, rfl⟩ | ⟨existing, found, -, rfl, -, rfl⟩
  · exact ⟨row, List.mem_append_left _ listed, rfl, carried⟩
  · obtain ⟨present, matched⟩ := findExistingUser_some found
    by_cases replaced : row.id = existing.id
    · obtain rfl := List.inj_on_of_nodup_map valid.userId listed present replaced
      refine ⟨updatedUser record now row, mem_replaceRow_self ⟨row, listed, rfl⟩, rfl, ?_⟩
      rcases matched with ⟨other, given, same⟩ | ⟨missing, name⟩
      · simp only [updatedUser, given, Option.some_or]
        rw [← same, carried]
      · -- A record with a GUID of its own would have met a row that already carries one.
        cases given : record.guid with
        | none => simp only [updatedUser, given, Option.none_or, carried]
        | some other =>
          have bare := unclaimed other given (missing other given) row listed name
          rw [bare] at carried
          cases carried
    · exact ⟨row, mem_replaceRow_of_ne listed replaced, rfl, carried⟩

/-- A record that meets an unclaimed name keeps every GUID. -/
theorem syncRecord_keepsGuids {state next : SyncState} {record : ADUserRecord}
    (kept : SyncInvariant fold state) (unclaimed : NameUnclaimed fold state record)
    (passed : syncRecord fold now state record = .ok next) :
    KeepsGuids state.tables next.tables := by
  obtain ⟨written, user, inserted, upserted, users, -⟩ := syncRecord_written kept passed
  intro row listed guid carried
  rw [users]
  exact upsertUser_keepsGuids kept.valid unclaimed upserted row listed guid carried

/-- A committed run whose records meet unclaimed names keeps every GUID. -/
theorem runSync_keepsGuids {call : SyncCall} {committed : IdentityTables} {result : SyncResult}
    (valid : tables.Valid fold) (unclaimed : NamesUnclaimed fold tables call)
    (ran : runSync fold tables call = .ok (committed, result)) : KeepsGuids tables committed := by
  obtain ⟨last, passed, finished⟩ := runSync_eq_ok.mp ran
  have kept : SyncInvariant fold last ∧ KeepsGuids tables last.tables := by
    refine Step.run_preserves
      (fun state => SyncInvariant fold state ∧ KeepsGuids tables state.tables)
      (fun state record next before guarded stepped => ?_)
      ⟨syncInvariant_initial call.startedAt valid,
        fun user listed guid carried => ⟨user, listed, rfl, carried⟩⟩ unclaimed passed
    exact ⟨syncInvariant_step state record next before.1 stepped,
      before.2.trans (syncRecord_keepsGuids before.1 guarded (passes_eq_some.mp stepped))⟩
  obtain ⟨change, same, ended⟩ := finishSync_users call.finishedAt last
  rw [finished] at ended
  refine kept.2.trans fun user listed guid carried => ?_
  rw [show committed = _ from ended]
  exact ⟨change user, List.mem_map_of_mem listed, (same user).1, (same user).2.2.trans carried⟩

/-- A call leaves valid tables, and keeps every GUID when its records meet unclaimed names. -/
theorem syncStep_keepsGuids {call : SyncCall} (valid : tables.Valid fold)
    (unclaimed : NamesUnclaimed fold tables call)
    (stepped : syncStep fold tables call = some after) :
    after.Valid fold ∧ KeepsGuids tables after := by
  simp only [syncStep] at stepped
  split at stepped
  · rename_i committed result ran
    cases stepped
    exact ⟨runSync_valid valid ran, runSync_keepsGuids valid unclaimed ran⟩
  · -- A call that raises is rolled back.
    cases stepped
    exact ⟨valid, fun user listed guid carried => ⟨user, listed, rfl, carried⟩⟩

/-- In every sequence of calls whose records meet unclaimed names, a row that carries a GUID goes
on carrying it. -/
theorem guids_stable {start final : IdentityTables} {calls : List SyncCall}
    (valid : start.Valid fold)
    (unclaimed : (syncStep fold).Admits (NamesUnclaimed fold) start calls)
    (ran : (syncStep fold).run start calls = some final) : GuidsStable start final := by
  have kept : final.Valid fold ∧ KeepsGuids start final := by
    refine Step.run_preserves (fun state => state.Valid fold ∧ KeepsGuids start state)
      (fun state call next before guarded stepped => ?_)
      ⟨valid, fun user listed guid carried => ⟨user, listed, rfl, carried⟩⟩ unclaimed ran
    obtain ⟨valid, step⟩ := syncStep_keepsGuids before.1 guarded stepped
    exact ⟨valid, before.2.trans step⟩
  exact kept.2.stable kept.1

/-- An account of the directory with a GUID. -/
def account (samAccountName guid : String) : ADUserRecord where
  samAccountName := samAccountName
  distinguishedName := "CN=" ++ samAccountName
  adObjectGuid := some guid
  upn := none
  displayName := none
  groups := []

/-- A call with these records. -/
def syncOf (records : List ADUserRecord) : SyncCall := ⟨0, 0, 0, records⟩

/-- The row that the account gets. -/
def accountRow (id : Nat) (samAccountName guid : String) : User :=
  newUser (account samAccountName guid) id 0

/-- The tables after a first sync of one account. -/
def oneAccount : IdentityTables := ⟨[accountRow 1 "jan" "g1"], [], [], 2, 1⟩

/-- The account is renamed and a new one appears. -/
def renamedAndJoined : SyncCall := syncOf [account "jan.new" "g1", account "eva" "g2"]

/-- A renamed account keeps its row. -/
theorem guids_stable_renamed :
    GuidsStable oneAccount
      ⟨[accountRow 1 "jan.new" "g1", accountRow 2 "eva" "g2"], [], [], 3, 1⟩ :=
  @guids_stable .ascii oneAccount _ [renamedAndJoined]
    (reachable_valid (.sync (syncOf [account "jan" "g1"]) .empty (by rfl)))
    (.cons
      (.cons
        (fun guid given missing => by
          obtain rfl := Option.some.inj given
          exact absurd rfl (missing _ List.mem_cons_self))
        rfl
        (.cons
          (fun _ _ _ user listed name => by
            obtain rfl := List.mem_singleton.mp listed
            revert name
            decide)
          rfl trivial))
      rfl trivial)
    (by decide +kernel)

/-- A departed account's name is taken over by a new one, which gets the row of the first. -/
theorem taken_name_rebound :
    ¬ ∀ (earlier later : List SyncCall) (middle final : IdentityTables),
      (syncStep .ascii).run .empty earlier = some middle →
        (syncStep .ascii).run middle later = some final → GuidsStable middle final := by
  intro claimed
  have stable := claimed [syncOf [account "jan" "g1"]] [syncOf [account "jan" "g2"]] oneAccount
    ⟨[accountRow 1 "jan" "g2"], [], [], 2, 1⟩ (by decide +kernel) (by decide +kernel)
    (accountRow 1 "jan" "g1") List.mem_cons_self "g1" rfl
  have same := stable.2 (accountRow 1 "jan" "g2") List.mem_cons_self rfl
  revert same
  decide

end TacacsWeb.Verif
