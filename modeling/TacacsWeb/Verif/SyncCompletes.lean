import TacacsWeb.Library.Claiming
import TacacsWeb.Verif.SyncIdentity
import TacacsWeb.Verif.SyncProgress

/-!
# Syncs that complete

Records are written one by one into a table that still holds every account ever seen. A run
raises when a record takes over a name that another row still holds at that moment: a disabled
row, or the row of an account that is renamed later in the same snapshot. It also raises when a
value that it writes does not fit its column. On a consistent snapshot nothing else can raise, and
the tables and records alone tell whether one of the two happens.
-/

namespace TacacsWeb.Verif

open TacacsWeb.Library TacacsWeb.Model

variable {fold : CaseFolding} {start tables : IdentityTables} {now : Nat}

/-! ## The condition -/

/-- A snapshot that the directory can give: every account has its own GUID and its own name, and
names each of its groups once. -/
structure Consistent (fold : CaseFolding) (records : List ADUserRecord) : Prop where
  /-- Every account has a GUID. -/
  guid : ∀ record ∈ records, ∃ guid, guid ≠ "" ∧ record.adObjectGuid = some guid
  /-- No two accounts share a GUID. -/
  distinctGuids : (records.map ADUserRecord.adObjectGuid).Nodup
  /-- No two accounts share a name in another casing. -/
  distinctNames : (records.map fun record => fold.sql record.samAccountName).Nodup
  /-- No account names a group twice. -/
  distinctSids : ∀ record ∈ records, (record.groups.map ADGroupRecord.sid).Nodup

/-- The row of a record fits its columns. -/
def RecordFits (record : ADUserRecord) : Prop := (newUser record 0 0).fits = true

/-- The groups of every record fit their columns, but for those whose SID an earlier record has. -/
def GroupsFit (records : List ADUserRecord) : Prop :=
  ∀ done record later, records = done ++ record :: later → ∀ group ∈ record.groups,
    (∀ earlier ∈ done, ∀ other ∈ earlier.groups, other.sid ≠ group.sid) → GroupRecordFits group

/-- The values that a run writes fit their columns. -/
structure ValuesFit (records : List ADUserRecord) : Prop where
  /-- The values of the accounts. -/
  accounts : ∀ record ∈ records, RecordFits record
  /-- The values of the groups. -/
  groups : GroupsFit records

/-- The record finds the row of its GUID gone: no row carries it, or a record that finds its own
gone and has the name of that row comes before. -/
def FindsGone (fold : CaseFolding) (start : IdentityTables) (records : List ADUserRecord) :
    ADUserRecord → Prop :=
  Displaced (byGuid start) (byName fold start) records

/-- The row goes to the record: it carries the GUID of the record, or the record finds the row of its
GUID gone and falls back to the name of this one. -/
def GoesTo (fold : CaseFolding) (start : IdentityTables) (records : List ADUserRecord)
    (record : ADUserRecord) (user : User) : Prop :=
  user.adObjectGuid = record.adObjectGuid ∨
    FindsGone fold start records record ∧
      fold.sql user.samAccountName = fold.python record.samAccountName

/-- Every row that holds the name of a record goes to that record or to one before it. -/
def NamesFree (fold : CaseFolding) (start : IdentityTables) (records : List ADUserRecord) : Prop :=
  ∀ done record later, records = done ++ record :: later → ∀ user ∈ start.users,
    fold.sql user.samAccountName = fold.sql record.samAccountName →
      ∃ taker ∈ done ++ [record], GoesTo fold start records taker user

/-! ## One record -/

/-- Every row that holds the record's name in some casing is the one that the record belongs to:
it carries the record's GUID, or no row does and the fallback compares the names as equal. -/
def NameFree (fold : CaseFolding) (state : SyncState) (record : ADUserRecord) : Prop :=
  ∀ user ∈ state.tables.users,
    fold.sql user.samAccountName = fold.sql record.samAccountName →
      user.adObjectGuid = record.adObjectGuid ∨
        (∀ other ∈ state.tables.users, other.adObjectGuid ≠ record.adObjectGuid) ∧
          fold.sql user.samAccountName = fold.python record.samAccountName

/-- A matched record can be written exactly when no other row holds its name. -/
theorem checkUserUnique_updated {existing : User} {record : ADUserRecord} {guid : String}
    (given : record.guid = some guid)
    (own : ∀ other ∈ tables.users, other.id ≠ existing.id → other.adObjectGuid ≠ some guid) :
    checkUserUnique fold tables.users (updatedUser record now existing) = .ok () ↔
      ∀ other ∈ tables.users, other.id ≠ existing.id →
        fold.sql other.samAccountName ≠ fold.sql record.samAccountName := by
  rw [checkUserUnique_eq_ok]
  constructor
  · exact fun distinct other listed different => (distinct other listed different).lower
  · intro free other listed different
    have lower := free other listed different
    refine ⟨fun same => lower (congrArg fold.sql same), lower, fun shared carried again => ?_⟩
    have taken : (updatedUser record now existing).adObjectGuid = some guid := by
      simp only [updatedUser, given, Option.some_or]
    rw [taken] at again
    obtain rfl := Option.some.inj again
    exact own other listed different carried

/-- A record without a match can be inserted exactly when no row holds its name. -/
theorem checkUserUnique_new (valid : tables.Valid fold) {record : ADUserRecord} {guid : String}
    (given : record.adObjectGuid = some guid)
    (missing : ∀ other ∈ tables.users, other.adObjectGuid ≠ some guid) :
    checkUserUnique fold tables.users (newUser record tables.nextUserId now) = .ok () ↔
      ∀ other ∈ tables.users,
        fold.sql other.samAccountName ≠ fold.sql record.samAccountName := by
  rw [checkUserUnique_eq_ok]
  constructor
  · exact fun distinct other listed =>
      (distinct other listed (valid.userSequence other listed).ne).lower
  · intro free other listed _
    have lower := free other listed
    refine ⟨fun same => lower (congrArg fold.sql same), lower, fun shared carried again => ?_⟩
    obtain rfl := Option.some.inj (given.symm.trans again)
    exact missing other listed carried

/-- The row of a match fits its columns exactly when the record does. -/
theorem updatedUser_fits {existing : User} {record : ADUserRecord} {guid : String}
    (given : record.adObjectGuid = some guid) (truthy : record.guid = some guid) :
    (updatedUser record now existing).fits = true ↔ RecordFits record := by
  have same : record.guid.or existing.adObjectGuid = record.adObjectGuid := by
    rw [truthy, given, Option.some_or]
  simp only [RecordFits, User.fits, updatedUser, newUser, same]

/-- A record can be written to a matched row exactly when the flush passes. -/
theorem upsertUser_matched {record : ADUserRecord} {existing : User}
    (found : findExistingUser fold tables.users record = .ok (some existing)) :
    (∃ written, upsertUser fold tables record now = .ok written) ↔
      flushUser fold tables.users (updatedUser record now existing) = .ok () := by
  constructor
  · rintro ⟨⟨after, user, inserted⟩, written⟩
    have fits := upsertUser_fits written
    rcases upsertUser_cases written with ⟨other, -⟩ | ⟨row, other, -, rfl, checked, -⟩
    · rw [found] at other
      cases other
    · rw [found] at other
      cases other
      exact flushUser_eq_ok.mpr ⟨fits, checked⟩
  · intro flushed
    exact ⟨_, bind_eq_ok.mpr ⟨_, found, map_eq_ok.mpr ⟨(), flushed, rfl⟩⟩⟩

/-- A record without a match can be inserted exactly when the flush passes. -/
theorem upsertUser_unmatched {record : ADUserRecord}
    (missed : findExistingUser fold tables.users record = .ok none) :
    (∃ written, upsertUser fold tables record now = .ok written) ↔
      flushUser fold tables.users (newUser record tables.nextUserId now) = .ok () := by
  constructor
  · rintro ⟨⟨after, user, inserted⟩, written⟩
    have fits := upsertUser_fits written
    rcases upsertUser_cases written with ⟨-, -, rfl, checked, -⟩ | ⟨row, other, -⟩
    · exact flushUser_eq_ok.mpr ⟨fits, checked⟩
    · rw [missed] at other
      cases other
  · intro flushed
    exact ⟨_, bind_eq_ok.mpr ⟨_, missed, map_eq_ok.mpr ⟨(), flushed, rfl⟩⟩⟩

/-- A record whose GUID a row carries can be written exactly when it fits and its name is free. -/
theorem upsertUser_byGuid_iff {state : SyncState} {record : ADUserRecord} {existing : User}
    {guid : String} (valid : state.tables.Valid fold) (nonempty : guid ≠ "")
    (given : record.adObjectGuid = some guid) (listed : existing ∈ state.tables.users)
    (carried : existing.adObjectGuid = some guid) :
    (∃ written, upsertUser fold state.tables record now = .ok written) ↔
      RecordFits record ∧ NameFree fold state record := by
  have truthy := guid_of_ne nonempty given
  have own : ∀ other ∈ state.tables.users, other.id ≠ existing.id →
      other.adObjectGuid ≠ some guid := fun other there different same =>
    different (congrArg User.id (eq_of_guid valid there listed same carried))
  rw [upsertUser_matched (findExistingUser_byGuid valid truthy listed carried), flushUser_eq_ok,
    updatedUser_fits given truthy, checkUserUnique_updated truthy own]
  refine and_congr_right fun _ => ?_
  constructor
  · intro free user there name
    by_cases same : user.id = existing.id
    · obtain rfl := List.inj_on_of_nodup_map valid.userId there listed same
      exact .inl (carried.trans given.symm)
    · exact absurd name (free user there same)
  · intro free other there different name
    rcases free other there name with same | ⟨missing, -⟩
    · exact own other there different (same.trans given)
    · exact missing existing listed (carried.trans given.symm)

/-- A record whose GUID no row carries can be written exactly when it fits and its name is free. -/
theorem upsertUser_byName_iff {state : SyncState} {record : ADUserRecord} {guid : String}
    (valid : state.tables.Valid fold) (nonempty : guid ≠ "")
    (given : record.adObjectGuid = some guid)
    (missing : ∀ other ∈ state.tables.users, other.adObjectGuid ≠ some guid) :
    (∃ written, upsertUser fold state.tables record now = .ok written) ↔
      RecordFits record ∧ NameFree fold state record := by
  have truthy := guid_of_ne nonempty given
  have found : findExistingUser fold state.tables.users record =
      .ok (findByName fold state.tables.users record) :=
    findExistingUser_byName fold fun other same => by
      obtain rfl := Option.some.inj (truthy.symm.trans same)
      exact missing
  have unheld : ∀ other ∈ state.tables.users, other.adObjectGuid ≠ record.adObjectGuid :=
    fun other there same => missing other there (same.trans given)
  cases chosen : findByName fold state.tables.users record with
  | some existing =>
    obtain ⟨listed, matched⟩ := findByName_some chosen
    rw [chosen] at found
    rw [upsertUser_matched found, flushUser_eq_ok, updatedUser_fits given truthy,
      checkUserUnique_updated truthy fun other there _ => missing other there]
    refine and_congr_right fun _ => ?_
    constructor
    · intro free user there name
      by_cases same : user.id = existing.id
      · obtain rfl := List.inj_on_of_nodup_map valid.userId there listed same
        exact .inr ⟨unheld, matched⟩
      · exact absurd name (free user there same)
    · intro free other there different name
      rcases free other there name with same | ⟨-, lowered⟩
      · exact unheld other there same
      · exact different
          (congrArg User.id (eq_of_lower valid there listed (lowered.trans matched.symm)))
  | none =>
    rw [chosen] at found
    rw [upsertUser_unmatched found, flushUser_eq_ok, checkUserUnique_new valid given missing]
    refine and_congr_right fun _ => ?_
    constructor
    · exact fun free user there name => absurd name (free user there)
    · intro free other there name
      rcases free other there name with same | ⟨-, lowered⟩
      · exact unheld other there same
      · exact findByName_none chosen other there lowered

/-- A record with a GUID and distinct SIDs passes exactly when it fits, its name is free, and its
groups fit where the run does not know them. -/
theorem syncRecord_returns_iff {state : SyncState} {record : ADUserRecord} {guid : String}
    (kept : SyncInvariant fold state) (nonempty : guid ≠ "")
    (given : record.adObjectGuid = some guid)
    (distinct : (record.groups.map ADGroupRecord.sid).Nodup) :
    (∃ next, recordStep fold now state record = some next) ↔
      (RecordFits record ∧ NameFree fold state record) ∧
        NewGroupsFit state.groupsBySid record.groups := by
  simp only [recordStep, passes_eq_some]
  rw [syncRecord_passes_iff kept distinct]
  refine and_congr_left fun _ => ?_
  by_cases held : ∃ existing ∈ state.tables.users, existing.adObjectGuid = some guid
  · obtain ⟨existing, listed, carried⟩ := held
    exact upsertUser_byGuid_iff kept.valid nonempty given listed carried
  · exact upsertUser_byName_iff kept.valid nonempty given fun other there same =>
      held ⟨other, there, same⟩

/-- In a run, the groups that it does not know are those whose SID no earlier record has. -/
theorem newGroupsFit_iff {done : List ADUserRecord} {groups : List ADGroupRecord}
    {state : IdentityTables × GroupsBySid}
    (written : GroupsWritten start (done.flatMap ADUserRecord.groups) state) :
    NewGroupsFit state.2 groups ↔ ∀ group ∈ groups,
      (∀ earlier ∈ done, ∀ other ∈ earlier.groups, other.sid ≠ group.sid) →
        GroupRecordFits group := by
  have unknown : ∀ sid, state.2.get? sid = none ↔
      ∀ earlier ∈ done, ∀ other ∈ earlier.groups, other.sid ≠ sid := by
    intro sid
    have known := written.known sid
    rw [← not_iff_not, ← ne_eq, Option.ne_none_iff_isSome, known]
    simp only [List.mem_flatMap]
    push Not
    constructor
    · intro met
      obtain ⟨other, ⟨earlier, listed, present⟩, same⟩ := met
      exact ⟨earlier, listed, other, present, same⟩
    · intro met
      obtain ⟨earlier, listed, other, present, same⟩ := met
      exact ⟨other, ⟨earlier, listed, present⟩, same⟩
  simp only [NewGroupsFit, unknown]

/-! ## Between two records -/

section Run

variable {records done later : List ADUserRecord} {record : ADUserRecord} {state next : SyncState}

/-- What holds after the first records of a run from some tables. -/
structure Underway (fold : CaseFolding) (start : IdentityTables) (records done : List ADUserRecord)
    (state : SyncState) : Prop where
  /-- The tables meet their constraints. -/
  kept : SyncInvariant fold state
  /-- The groups of the records are written. -/
  groups : GroupsWritten start (done.flatMap ADUserRecord.groups) (state.tables, state.groupsBySid)
  /-- A row that has gone to no record is as it was. -/
  untaken : ∀ user ∈ start.users, (∀ taker ∈ done, ¬GoesTo fold start records taker user) →
    user ∈ state.tables.users
  /-- Any other row holds the name and the GUID of a record. -/
  rows : ∀ row ∈ state.tables.users,
    (row ∈ start.users ∧ ∀ taker ∈ done, ¬GoesTo fold start records taker row) ∨
      ∃ earlier ∈ done, row.samAccountName = earlier.samAccountName ∧
        row.adObjectGuid = earlier.adObjectGuid

/-- Nothing has been done at the start of a run. -/
theorem underway_initial (startedAt : Nat) (valid : start.Valid fold) :
    Underway fold start records [] (.initial startedAt start) where
  kept := syncInvariant_initial startedAt valid
  groups := ⟨fun sid => by simp [SyncState.initial], fun row listed => .inr ⟨listed, nofun⟩⟩
  untaken user listed _ := listed
  rows row listed := .inl ⟨listed, nofun⟩

/-- A record has a GUID, and no record before it has the same one or the same name. -/
theorem Consistent.apart (consistent : Consistent fold (done ++ record :: later)) :
    (∃ guid, guid ≠ "" ∧ record.adObjectGuid = some guid) ∧
      (∀ earlier ∈ done, earlier.adObjectGuid ≠ record.adObjectGuid) ∧
        ∀ earlier ∈ done, fold.sql earlier.samAccountName ≠ fold.sql record.samAccountName := by
  have guids := List.pairwise_map.mp consistent.distinctGuids
  have names := List.pairwise_map.mp consistent.distinctNames
  refine ⟨consistent.guid record (by simp), fun earlier met => ?_, fun earlier met => ?_⟩
  · exact (List.pairwise_append.mp guids).2.2 earlier met record List.mem_cons_self
  · exact (List.pairwise_append.mp names).2.2 earlier met record List.mem_cons_self

/-- What precedes a record is before it in the list. -/
theorem Consistent.precedes (consistent : Consistent fold (done ++ record :: later))
    {earlier : ADUserRecord} (precedes : Precedes (done ++ record :: later) earlier record) :
    earlier ∈ done := by
  obtain ⟨before, after, split, met⟩ := precedes
  have nodup : (done ++ record :: later).Nodup := consistent.distinctGuids.of_map
  have missing : record ∉ done := fun listed =>
    (List.nodup_append.mp nodup).2.2 record listed record List.mem_cons_self rfl
  rw [split] at nodup
  have missingToo : record ∉ before := fun listed =>
    (List.nodup_append.mp nodup).2.2 record listed record List.mem_cons_self rfl
  rcases List.append_eq_append_iff.mp split with ⟨between, rfl, rest⟩ | ⟨between, rfl, rest⟩
  · cases between with
    | nil => simpa using met
    | cons first between =>
      obtain ⟨rfl, -⟩ := List.cons_eq_cons.mp rest
      exact absurd (List.mem_append_right done List.mem_cons_self) missingToo
  · exact List.mem_append_left _ met

/-- A record finds the row of its GUID gone exactly when no row carries the GUID. -/
theorem Underway.findsGone_iff (valid : start.Valid fold)
    (consistent : Consistent fold (done ++ record :: later))
    (underway : Underway fold start (done ++ record :: later) done state) :
    FindsGone fold start (done ++ record :: later) record ↔
      ∀ row ∈ state.tables.users, row.adObjectGuid ≠ record.adObjectGuid := by
  obtain ⟨⟨guid, -, given⟩, guids, -⟩ := consistent.apart
  constructor
  · intro gone row listed carried
    rcases underway.rows row listed with ⟨there, untaken⟩ | ⟨earlier, met, -, same⟩
    · have found := (byGuid_eq_some valid given).mpr ⟨there, carried⟩
      cases gone with
      | unheld none =>
        rw [found] at none
        cases none
      | taken displaced fallback own precedes =>
        obtain rfl := Option.some.inj (found.symm.trans own)
        have name := ((byName_eq_some valid).mp fallback).2
        exact untaken _ (consistent.precedes precedes) (.inr ⟨displaced, name⟩)
    · exact guids earlier met (same.symm.trans carried)
  · intro missing
    cases found : byGuid start record with
    | none => exact .unheld found
    | some item =>
      obtain ⟨there, carried⟩ := (byGuid_eq_some valid given).mp found
      have gone : ∃ taker ∈ done, GoesTo fold start (done ++ record :: later) taker item := by
        by_contra untaken
        push Not at untaken
        exact missing item (underway.untaken item there untaken) carried
      obtain ⟨taker, met, own | ⟨displaced, name⟩⟩ := gone
      · exact absurd (own.symm.trans carried) (guids taker met)
      · exact .taken displaced ((byName_eq_some valid).mpr ⟨there, name⟩) found
          ⟨done, later, rfl, met⟩

/-- The name of a record is free in the tables of the run exactly when every row that held it at the
start goes to this record or to one before it. -/
theorem Underway.nameFree_iff (valid : start.Valid fold)
    (consistent : Consistent fold (done ++ record :: later))
    (underway : Underway fold start (done ++ record :: later) done state) :
    NameFree fold state record ↔ ∀ user ∈ start.users,
      fold.sql user.samAccountName = fold.sql record.samAccountName →
        ∃ taker ∈ done ++ [record], GoesTo fold start (done ++ record :: later) taker user := by
  have gone := underway.findsGone_iff valid consistent
  obtain ⟨-, -, names⟩ := consistent.apart
  constructor
  · intro free user there name
    by_cases untaken : ∀ taker ∈ done, ¬GoesTo fold start (done ++ record :: later) taker user
    · refine ⟨record, by simp, ?_⟩
      rcases free user (underway.untaken user there untaken) name with own | ⟨missing, fallback⟩
      · exact .inl own
      · exact .inr ⟨gone.mpr missing, fallback⟩
    · push Not at untaken
      obtain ⟨taker, met, goes⟩ := untaken
      exact ⟨taker, List.mem_append_left _ met, goes⟩
  · intro taken user listed name
    rcases underway.rows user listed with ⟨there, untaken⟩ | ⟨earlier, met, same, -⟩
    · obtain ⟨taker, met, goes⟩ := taken user there name
      rcases List.mem_append.mp met with before | last
      · exact absurd goes (untaken taker before)
      · obtain rfl := List.mem_singleton.mp last
        exact goes.imp id fun fallback => ⟨gone.mp fallback.1, fallback.2⟩
    · rw [same] at name
      exact absurd name (names earlier met)

/-- A row goes to a record exactly when the record is matched with it. -/
theorem Underway.goesTo_iff (valid : start.Valid fold)
    (consistent : Consistent fold (done ++ record :: later))
    (underway : Underway fold start (done ++ record :: later) done state) {user : User}
    (listed : user ∈ state.tables.users) :
    GoesTo fold start (done ++ record :: later) record user ↔
      findExistingUser fold state.tables.users record = .ok (some user) := by
  have gone := underway.findsGone_iff valid consistent
  obtain ⟨⟨guid, nonempty, given⟩, -, -⟩ := consistent.apart
  have truthy := guid_of_ne nonempty given
  constructor
  · intro goes
    rcases goes with own | ⟨fallback, name⟩
    · exact findExistingUser_byGuid underway.kept.valid truthy listed (own.trans given)
    · have missing : ∀ other, record.guid = some other →
          ∀ row ∈ state.tables.users, row.adObjectGuid ≠ some other := by
        intro other same row present
        rw [truthy] at same
        rw [← same, ← given]
        exact gone.mp fallback row present
      rw [findExistingUser_byName fold missing]
      cases chosen : findByName fold state.tables.users record with
      | none => exact absurd name (findByName_none chosen user listed)
      | some other =>
        obtain ⟨present, same⟩ := findByName_some chosen
        rw [eq_of_lower underway.kept.valid present listed (same.trans name.symm)]
  · intro found
    obtain ⟨-, matched⟩ := findExistingUser_some found
    rcases matched with ⟨other, same, carried⟩ | ⟨missing, name⟩
    · have own : some other = some guid := same.symm.trans truthy
      exact .inl (carried.trans (own.trans given.symm))
    · refine .inr ⟨gone.mpr fun row present => ?_, name⟩
      rw [given]
      exact missing guid truthy row present

/-- One more record: its row holds its name and GUID, and other rows stay. -/
theorem Underway.add (valid : start.Valid fold)
    (consistent : Consistent fold (done ++ record :: later))
    (underway : Underway fold start (done ++ record :: later) done state)
    (stepped : recordStep fold now state record = some next) :
    Underway fold start (done ++ record :: later) (done ++ [record]) next := by
  have goes := @Underway.goesTo_iff _ _ _ _ _ _ valid consistent underway
  obtain ⟨⟨guid, nonempty, given⟩, -, -⟩ := consistent.apart
  have truthy := guid_of_ne nonempty given
  have kept := syncInvariant_step state record next underway.kept stepped
  obtain ⟨middle, user, inserted, last, known, upserted, replaced, rfl⟩ :=
    syncRecord_cases (passes_eq_some.mp stepped)
  have written : GroupsWritten start (done.flatMap ADUserRecord.groups)
      (middle, state.groupsBySid) :=
    ⟨underway.groups.known, fun row listed =>
      underway.groups.written row (upsertUser_adGroups upserted ▸ listed)⟩
  have groups := replaceUserGroups_spec (upsertUser_valid underway.kept.valid upserted)
    (underway.kept.remembered.upsert upserted) written replaced
  have users : last.users = middle.users := groups.kept.frame.users
  have untouched : ∀ row ∈ state.tables.users,
      ¬GoesTo fold start (done ++ record :: later) record row → row ∈ middle.users := by
    intro row listed apart
    rcases upsertUser_cases upserted with ⟨-, -, -, -, rfl⟩ | ⟨existing, found, -, rfl, -, rfl⟩
    · exact List.mem_append_left _ listed
    · refine mem_replaceRow_of_ne listed fun same => apart ?_
      obtain rfl := List.inj_on_of_nodup_map underway.kept.valid.userId listed
        (findExistingUser_some found).1 same
      exact (goes listed).mpr found
  have rows : ∀ row ∈ middle.users,
      (row ∈ state.tables.users ∧ ¬GoesTo fold start (done ++ record :: later) record row) ∨
        row.samAccountName = record.samAccountName ∧ row.adObjectGuid = record.adObjectGuid := by
    intro row listed
    rcases upsertUser_cases upserted with
      ⟨missed, -, rfl, -, rfl⟩ | ⟨existing, found, -, rfl, -, rfl⟩
    · rcases List.mem_append.mp listed with before | new
      · refine .inl ⟨before, fun taken => ?_⟩
        have found := (goes before).mp taken
        rw [missed] at found
        cases found
      · obtain rfl := List.mem_singleton.mp new
        exact .inr ⟨rfl, rfl⟩
    · rcases mem_replaceRow listed with rfl | ⟨before, different⟩
      · refine .inr ⟨rfl, ?_⟩
        simp only [updatedUser, truthy, Option.some_or, given]
      · refine .inl ⟨before, fun taken => different ?_⟩
        have matched := (goes before).mp taken
        rw [found] at matched
        cases matched
        rfl
  refine ⟨kept, ?_, ?_, ?_⟩
  · rw [List.flatMap_append, List.flatMap_singleton]
    exact groups.written
  · intro other there apart
    rw [users]
    refine untouched other (underway.untaken other there fun taker met => ?_) ?_
    · exact apart taker (List.mem_append_left _ met)
    · exact apart record (by simp)
  · intro row listed
    rw [users] at listed
    rcases rows row listed with ⟨before, apart⟩ | own
    · rcases underway.rows row before with ⟨there, untaken⟩ | ⟨earlier, met, same⟩
      · refine .inl ⟨there, fun taker met => ?_⟩
        rcases List.mem_append.mp met with first | last
        · exact untaken taker first
        · rwa [List.mem_singleton.mp last]
      · exact .inr ⟨earlier, List.mem_append_left _ met, same⟩
    · exact .inr ⟨record, by simp, own⟩

end Run

/-! ## A whole run -/

/-- On valid tables and a consistent snapshot, a run returns exactly when its values fit and the
names are free. -/
theorem runSync_returns_iff {call : SyncCall} (valid : tables.Valid fold)
    (consistent : Consistent fold call.records) :
    (∃ committed result, runSync fold tables call = .ok (committed, result)) ↔
      ValuesFit call.records ∧ NamesFree fold tables call.records := by
  have returns : (∃ committed result, runSync fold tables call = .ok (committed, result)) ↔
      ∃ last, (recordStep fold call.now).run (.initial call.startedAt tables) call.records =
        some last := by
    constructor
    · rintro ⟨committed, result, ran⟩
      obtain ⟨last, passed, -⟩ := runSync_eq_ok.mp ran
      exact ⟨last, passed⟩
    · rintro ⟨last, passed⟩
      exact ⟨_, _, runSync_eq_ok.mpr ⟨last, passed, rfl⟩⟩
  rw [returns, Step.run_isSome_iff_prefixes (Underway fold tables call.records)
    (fun done record => (RecordFits record ∧ ∀ user ∈ tables.users,
      fold.sql user.samAccountName = fold.sql record.samAccountName →
        ∃ taker ∈ done ++ [record], GoesTo fold tables call.records taker user) ∧
      ∀ group ∈ record.groups, (∀ earlier ∈ done, ∀ other ∈ earlier.groups,
        other.sid ≠ group.sid) → GroupRecordFits group)
    ?_ ?_ (underway_initial call.startedAt valid)]
  · constructor
    · intro passes
      refine ⟨⟨fun record listed => ?_, fun done record later split => ?_⟩,
        fun done record later split => ?_⟩
      · obtain ⟨done, later, split⟩ := List.append_of_mem listed
        exact (passes done record later split).1.1
      · exact (passes done record later split).2
      · exact (passes done record later split).1.2
    · intro condition done record later split
      obtain ⟨fits, free⟩ := condition
      have listed : record ∈ call.records := by simp [split]
      exact ⟨⟨fits.accounts record listed, free done record later split⟩,
        fits.groups done record later split⟩
  · intro done record later state split underway
    have listed : record ∈ call.records := by simp [split]
    obtain ⟨guid, nonempty, given⟩ := consistent.guid record listed
    rw [syncRecord_returns_iff underway.kept nonempty given
      (consistent.distinctSids record listed), newGroupsFit_iff underway.groups]
    rw [split] at consistent underway ⊢
    rw [underway.nameFree_iff valid consistent]
  · intro done record later state next split underway stepped
    rw [split] at consistent underway ⊢
    exact underway.add valid consistent stepped

/-- On reachable tables and a consistent snapshot, a run completes exactly when the values fit their
columns and every row that holds the name of a record goes to that record or to one before it. -/
theorem runSync_completes_iff {call : SyncCall} (reached : Reachable fold tables)
    (consistent : Consistent fold call.records) :
    (∃ committed result, runSync fold tables call = .ok (committed, result)) ↔
      ValuesFit call.records ∧ NamesFree fold tables call.records :=
  runSync_returns_iff (reachable_valid reached) consistent

/-- Accounts with distinct names and GUIDs are a consistent snapshot. -/
theorem accounts_consistent (accounts : List (String × String))
    (nonempty : ∀ entry ∈ accounts, entry.2 ≠ "") (guids : (accounts.map Prod.snd).Nodup)
    (names : (accounts.map fun entry => fold.sql entry.1).Nodup) :
    Consistent fold (accounts.map fun entry => account entry.1 entry.2) where
  guid record listed := by
    obtain ⟨entry, there, rfl⟩ := List.mem_map.mp listed
    exact ⟨entry.2, nonempty entry there, rfl⟩
  distinctGuids := by
    rw [List.map_map]
    exact List.pairwise_map.mpr ((List.pairwise_map.mp guids).imp fun different same =>
      different (Option.some.inj same))
  distinctNames := by
    rw [List.map_map]
    exact names
  distinctSids record listed := by
    obtain ⟨entry, there, rfl⟩ := List.mem_map.mp listed
    exact List.nodup_nil

/-- The tables after a first sync of two accounts. -/
def twoAccounts : IdentityTables :=
  ⟨[accountRow 1 "jan" "g1", accountRow 2 "eva" "g2"], [], [], 3, 1⟩

/-- A first sync leads to these tables. -/
theorem twoAccounts_reachable : Reachable .ascii twoAccounts :=
  .sync (syncOf [account "jan" "g1", account "eva" "g2"]) .empty (by rfl)

/-- An account that is renamed to a name that no row holds. -/
theorem runSync_completes_renamed :
    ∃ committed result,
      runSync .ascii twoAccounts (syncOf [account "jan.new" "g1"]) = .ok (committed, result) := by
  have only : ∀ {done later : List ADUserRecord} {record : ADUserRecord},
      [account "jan.new" "g1"] = done ++ record :: later → record = account "jan.new" "g1" :=
    fun split => List.mem_singleton.mp (split ▸ by simp)
  have values : ValuesFit [account "jan.new" "g1"] := by
    constructor
    · intro record listed
      obtain rfl := List.mem_singleton.mp listed
      unfold RecordFits
      decide +kernel
    · intro done record later split group given
      rw [only split] at given
      cases given
  have free : NamesFree .ascii twoAccounts [account "jan.new" "g1"] := by
    intro done record later split user listed name
    rw [only split] at name
    have apart : ∀ row ∈ twoAccounts.users, CaseFolding.ascii.sql row.samAccountName ≠
        CaseFolding.ascii.sql "jan.new" := by decide +kernel
    exact absurd name (apart user listed)
  exact (runSync_completes_iff twoAccounts_reachable
    (accounts_consistent [("jan.new", "g1")] (by decide) (by decide) (by decide))).mpr
    ⟨values, free⟩

/-- Two accounts swap their names: the first of them meets the name of the second. -/
theorem swapped_names_violate :
    ¬ ∀ (tables : IdentityTables) (call : SyncCall), Reachable .ascii tables →
      Consistent .ascii call.records →
        ∃ committed result, runSync .ascii tables call = .ok (committed, result) := by
  intro claimed
  obtain ⟨committed, result, ran⟩ := claimed twoAccounts
    (syncOf [account "eva" "g1", account "jan" "g2"]) twoAccounts_reachable
    (accounts_consistent [("eva", "g1"), ("jan", "g2")] (by decide) (by decide)
      (by decide))
  have raised : runSync .ascii twoAccounts (syncOf [account "eva" "g1", account "jan" "g2"]) =
      .error (.uniqueViolation .userSamAccountName) := by decide +kernel
  rw [raised] at ran
  cases ran

end TacacsWeb.Verif
