import Mathlib.Data.List.Sort
import TacacsWeb.Library.Result
import TacacsWeb.Library.Table
import TacacsWeb.Model.Columns
import TacacsWeb.Model.Schema

/-!
# The directory sync

`app/ldap_sync/sync.py`: every record of a snapshot is matched with a row and written, its
memberships are replaced, and the rows that no record matched are disabled. Each write is
flushed before the next record is read, so the widths of the columns and the uniqueness
constraints are checked row by row, the latter against a table that earlier records have already
changed. A run that raises is rolled back by its caller.
-/

namespace TacacsWeb.Model

open TacacsWeb.Library

/-- A group as the directory gives it. -/
structure ADGroupRecord where
  /-- Security identifier in string form. -/
  sid : String
  /-- Group DN. -/
  distinguishedName : String
  /-- Group name. -/
  name : Option String
deriving DecidableEq

/-- An account as the directory gives it. -/
structure ADUserRecord where
  /-- The login name. -/
  samAccountName : String
  /-- The account's DN. -/
  distinguishedName : String
  /-- `objectGUID`, absent when the directory did not give one. -/
  adObjectGuid : Option String
  /-- User principal name. -/
  upn : Option String
  /-- Display name. -/
  displayName : Option String
  /-- The groups the account is a member of. -/
  groups : List ADGroupRecord
deriving DecidableEq

/-- The counters of a run. -/
structure SyncResult where
  /-- Records read. -/
  usersSeen : Nat
  /-- Rows inserted. -/
  usersInserted : Nat
  /-- Records that matched a row. -/
  usersUpdated : Nat
  /-- Rows disabled because no record matched them. -/
  usersDisabled : Nat
  /-- Distinct groups of the records. -/
  groupsSeen : Nat
  /-- The same number: `_just_created` is always true. -/
  groupsInserted : Nat
  /-- Memberships written. -/
  edgesTotal : Nat
  /-- When the run began. -/
  startedAt : Nat
  /-- When it ended. -/
  finishedAt : Option Nat
deriving DecidableEq

/-- The uniqueness constraints that a run can meet. -/
inductive UniqueConstraint where
  /-- `ix_user_sam_account_name`. -/
  | userSamAccountName
  /-- `uq_user_sam_account_name_lower`. -/
  | userSamAccountNameLower
  /-- `ix_user_ad_object_guid`. -/
  | userAdObjectGuid
  /-- The unique index on `ad_group.sid`. -/
  | adGroupSid
  /-- The primary key of `user_ad_group`. -/
  | userAdGroup
deriving DecidableEq

/-- What a run raises. -/
inductive SyncError where
  /-- `MultipleResultsFound` of `scalar_one_or_none`. -/
  | multipleResultsFound
  /-- `IntegrityError` of a flush. -/
  | uniqueViolation (constraint : UniqueConstraint)
  /-- `DataError` of a flush: a value does not fit its column. -/
  | valueRefused
deriving DecidableEq

/-- `scalar_one_or_none()` inside a run. -/
def syncOneOrNone {Row : Type} (rows : List Row) : Except SyncError (Option Row) :=
  (scalarOneOrNone rows).mapError fun _ => .multipleResultsFound

/-! ## Matching a record -/

/-- The GUID of a record where the code tests it for truth. -/
def ADUserRecord.guid (record : ADUserRecord) : Option String :=
  record.adObjectGuid.filter (· ≠ "")

/-- The fallback of `_find_existing_user`: the rows whose lowered name is the record's, in the
order of their ids, and among them the one with the same casing first. -/
def findByName (fold : CaseFolding) (users : List User) (record : ADUserRecord) : Option User :=
  let candidates := (users.filter fun user =>
    fold.sql user.samAccountName = fold.python record.samAccountName).insertionSort
      fun left right => left.id ≤ right.id
  (candidates.find? fun candidate => candidate.samAccountName = record.samAccountName).or
    candidates.head?

/-- `_find_existing_user`. -/
def findExistingUser (fold : CaseFolding) (users : List User) (record : ADUserRecord) :
    Except SyncError (Option User) :=
  match record.guid with
  | none => .ok (findByName fold users record)
  | some guid =>
    (syncOneOrNone (users.filter fun user => user.adObjectGuid = some guid)).map fun found =>
      found.or (findByName fold users record)

/-! ## Writing a record -/

/-- The row that a record without a match gets. -/
def newUser (record : ADUserRecord) (id now : Nat) : User where
  id := id
  samAccountName := record.samAccountName
  adObjectGuid := record.adObjectGuid
  distinguishedName := record.distinguishedName
  upn := record.upn
  displayName := record.displayName
  enabled := true
  lastSeenInSyncAt := some now

/-- The row of a match after the record has been written to it. -/
def updatedUser (record : ADUserRecord) (now : Nat) (user : User) : User :=
  { user with
    samAccountName := record.samAccountName
    adObjectGuid := record.guid.or user.adObjectGuid
    distinguishedName := record.distinguishedName
    upn := record.upn
    displayName := record.displayName
    enabled := true
    lastSeenInSyncAt := some now }

/-- The unique indexes of `user` at a flush of this row. -/
def checkUserUnique (fold : CaseFolding) (users : List User) (user : User) :
    Except SyncError Unit :=
  let others := users.filter fun other => other.id ≠ user.id
  if others.any fun other => other.samAccountName = user.samAccountName then
    .error (.uniqueViolation .userSamAccountName)
  else if others.any fun other =>
      fold.sql other.samAccountName = fold.sql user.samAccountName then
    .error (.uniqueViolation .userSamAccountNameLower)
  else if user.adObjectGuid.isSome &&
      others.any fun other => other.adObjectGuid = user.adObjectGuid then
    .error (.uniqueViolation .userAdObjectGuid)
  else .ok ()

/-- The values fit the columns of `user`. -/
def User.fits (user : User) : Bool :=
  textFits (some 256) (some user.samAccountName) && textFits (some 36) user.adObjectGuid &&
    textFits (some 1024) (some user.distinguishedName) && textFits (some 256) user.upn &&
    textFits (some 256) user.displayName

/-- The flush of a row of `user`: its values are checked before its keys. -/
def flushUser (fold : CaseFolding) (users : List User) (user : User) : Except SyncError Unit :=
  if user.fits then checkUserUnique fold users user else .error .valueRefused

/-- `_upsert_user` and the flush after it: the tables, the row and whether it was inserted. -/
def upsertUser (fold : CaseFolding) (tables : IdentityTables) (record : ADUserRecord) (now : Nat) :
    Except SyncError (IdentityTables × User × Bool) :=
  (findExistingUser fold tables.users record).bind fun found =>
    match found with
    | none =>
      let user := newUser record tables.nextUserId now
      (flushUser fold tables.users user).map fun _ =>
        ({ tables with users := tables.users ++ [user], nextUserId := tables.nextUserId + 1 },
          user, true)
    | some existing =>
      let user := updatedUser record now existing
      (flushUser fold tables.users user).map fun _ =>
        ({ tables with users := replaceRow User.id user tables.users }, user, false)

/-- The groups of the run so far, by SID. -/
abbrev GroupsBySid := Dict String ADGroup

/-- The values fit the columns of `ad_group`. -/
def ADGroup.fits (group : ADGroup) : Bool :=
  textFits (some 64) (some group.sid) && textFits (some 1024) (some group.distinguishedName) &&
    textFits (some 256) group.name

/-- The group of a record: the one of the run, else the row with its SID, which is brought up
to date, else a new row. A changed row is flushed before the next statement, or at the commit. -/
def findOrCreateGroup (now : Nat) (tables : IdentityTables) (groupsBySid : GroupsBySid)
    (record : ADGroupRecord) : Except SyncError (IdentityTables × GroupsBySid × ADGroup) :=
  match groupsBySid.get? record.sid with
  | some group => .ok (tables, groupsBySid, group)
  | none =>
    (syncOneOrNone (tables.adGroups.filter fun group => group.sid = record.sid)).bind fun found =>
      match found with
      | none =>
        let group : ADGroup :=
          ⟨tables.nextAdGroupId, record.sid, record.distinguishedName, record.name, some now⟩
        if !group.fits then .error .valueRefused
        else if tables.adGroups.any fun other => other.sid = group.sid then
          .error (.uniqueViolation .adGroupSid)
        else
          .ok ({ tables with
              adGroups := tables.adGroups ++ [group]
              nextAdGroupId := tables.nextAdGroupId + 1 },
            groupsBySid.set record.sid group, group)
      | some existing =>
        let group : ADGroup := { existing with
          distinguishedName := record.distinguishedName
          name := record.name
          lastSeenInSyncAt := some now }
        if group.fits then
          .ok ({ tables with adGroups := replaceRow ADGroup.id group tables.adGroups },
            groupsBySid.set record.sid group, group)
        else .error .valueRefused

/-- One group of a record, with the membership row it adds. -/
def addUserGroup (now userId : Nat) (state : IdentityTables × GroupsBySid)
    (record : ADGroupRecord) : Except SyncError (IdentityTables × GroupsBySid) :=
  (findOrCreateGroup now state.1 state.2 record).bind fun (tables, groupsBySid, group) =>
    if ⟨userId, group.id⟩ ∈ tables.userAdGroups then .error (.uniqueViolation .userAdGroup)
    else
      .ok ({ tables with userAdGroups := tables.userAdGroups ++ [⟨userId, group.id⟩] },
        groupsBySid)

/-- `delete(UserADGroup).where(UserADGroup.user_id == user.id)`. -/
def dropUserGroups (userId : Nat) (tables : IdentityTables) : IdentityTables :=
  { tables with userAdGroups := tables.userAdGroups.filter fun edge => edge.userId ≠ userId }

/-- `_replace_user_groups`, whose count is the number of group records. -/
def replaceUserGroups (now userId : Nat) (state : IdentityTables × GroupsBySid)
    (records : List ADGroupRecord) : Except SyncError (IdentityTables × GroupsBySid) :=
  records.foldlM (addUserGroup now userId) (dropUserGroups userId state.1, state.2)

/-! ## A run -/

/-- What a run holds between two records. -/
structure SyncState where
  /-- The tables as flushed so far. -/
  tables : IdentityTables
  /-- `groups_by_sid`. -/
  groupsBySid : GroupsBySid
  /-- `seen_user_ids`. -/
  seenUserIds : List Nat
  /-- `result`. -/
  result : SyncResult
deriving DecidableEq

/-- A run before its first record. -/
def SyncState.initial (startedAt : Nat) (tables : IdentityTables) : SyncState :=
  ⟨tables, ∅, [], ⟨0, 0, 0, 0, 0, 0, 0, startedAt, none⟩⟩

/-- One pass of the loop over the records. -/
def syncRecord (fold : CaseFolding) (now : Nat) (state : SyncState) (record : ADUserRecord) :
    Except SyncError SyncState :=
  (upsertUser fold state.tables record now).bind fun (tables, user, inserted) =>
    (replaceUserGroups now user.id (tables, state.groupsBySid) record.groups).map
      fun (tables, groupsBySid) =>
        { tables := tables
          groupsBySid := groupsBySid
          seenUserIds := user.id :: state.seenUserIds
          result := { state.result with
            usersSeen := state.result.usersSeen + 1
            usersInserted := state.result.usersInserted + if inserted then 1 else 0
            usersUpdated := state.result.usersUpdated + if inserted then 0 else 1
            edgesTotal := state.result.edgesTotal + record.groups.length } }

/-- The row is enabled and no record of the run matched it. -/
def isStale (seenUserIds : List Nat) (user : User) : Bool :=
  user.id ∉ seenUserIds && user.enabled

/-- What follows the loop: unless no record was seen, the stale rows are disabled. -/
def finishSync (finishedAt : Nat) (state : SyncState) : IdentityTables × SyncResult :=
  let stale := if state.seenUserIds = [] then [] else
    state.tables.users.filter (isStale state.seenUserIds)
  let users := if state.seenUserIds = [] then state.tables.users else
    state.tables.users.map fun user =>
      if isStale state.seenUserIds user then { user with enabled := false } else user
  ({ state.tables with users := users },
    { state.result with
      usersDisabled := stale.length
      groupsSeen := state.groupsBySid.items.length
      groupsInserted := state.groupsBySid.items.length
      finishedAt := some finishedAt })

/-- A call of `run_sync`: the times it reads from the clock and the records it is given. -/
structure SyncCall where
  /-- `started_at`. -/
  startedAt : Nat
  /-- `now`. -/
  now : Nat
  /-- `finished_at`. -/
  finishedAt : Nat
  /-- `users`. -/
  records : List ADUserRecord
deriving DecidableEq

/-- `run_sync` on the committed tables. -/
def runSync (fold : CaseFolding) (tables : IdentityTables) (call : SyncCall) :
    Except SyncError (IdentityTables × SyncResult) :=
  (call.records.foldlM (syncRecord fold call.now) (.initial call.startedAt tables)).map
    (finishSync call.finishedAt)

/-- A call as a transaction: what was committed, or the tables as they were when it raised. -/
def syncStep (fold : CaseFolding) : Step IdentityTables SyncCall := fun tables call =>
  match runSync fold tables call with
  | .ok (committed, _) => some committed
  | .error _ => some tables

/-- A call of `run_sync` over the whole database: it writes the identity tables and no others. -/
def syncDatabase (fold : CaseFolding) (db : Database) (call : SyncCall) : Database :=
  match runSync fold db.identity call with
  | .ok (committed, _) => { db with identity := committed }
  | .error _ => db

/-- The loop of a call as a step function. -/
def recordStep (fold : CaseFolding) (now : Nat) : Step SyncState ADUserRecord :=
  passes (syncRecord fold now)

/-- The tables of a new installation. -/
def IdentityTables.empty : IdentityTables := ⟨[], [], [], 1, 1⟩

end TacacsWeb.Model
