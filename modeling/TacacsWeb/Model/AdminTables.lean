import TacacsWeb.Library.Table
import TacacsWeb.Library.UnitOfWork
import TacacsWeb.Model.LocalLogin
import TacacsWeb.Model.PrivilegeProfiles
import TacacsWeb.Model.SyncWorker

/-!
# The tables behind the admin API

The tables that the audited operations write, their constraints, and what the database does with
each statement that a flush sends: it takes the row, or raises a broken constraint, or raises
something else because a value does not fit its column. The statements of one flush are independent
of each other, so they are sent in the order in which they were staged.
-/

namespace TacacsWeb.Model

open TacacsWeb.Library TacacsWeb.Library.UnitOfWork

/-- The tables. -/
structure AdminTables where
  /-- `user`, `ad_group` and `user_ad_group`. -/
  identity : IdentityTables
  /-- `device_group`. -/
  deviceGroups : List DeviceGroup
  /-- `device`. -/
  devices : List Device
  /-- `privilege_profile`. -/
  privilegeProfiles : List PrivilegeProfile
  /-- `authorization`. -/
  authorizations : List Authorization
  /-- The `device_id` column of `accounting_record`. -/
  accountingDeviceIds : List (Option Nat)
  /-- `system_setting` but for `ldap.last_sync_result` and the rows of the background loops. -/
  systemSettings : Dict String String
  /-- `system_secret`, decrypted. -/
  systemSecrets : Dict String String
  /-- `ldap.last_sync_result`. -/
  lastSyncResult : Option LdapSyncRunSummary
  /-- The one row of `local_admin`. -/
  localAdmin : Option LocalAdmin
  /-- `audit_log`, the latest row last. -/
  auditLog : List AuditLog

/-- The sequences that number the rows of the domain tables. -/
structure AdminSequences where
  /-- Next value for `device_group`. -/
  deviceGroup : Nat
  /-- Next value for `device`. -/
  device : Nat
  /-- Next value for `privilege_profile`. -/
  privilegeProfile : Nat
  /-- Next value for `authorization`. -/
  authorization : Nat
deriving DecidableEq

/-- The tables as the device handlers see them. -/
def AdminTables.deviceTables (tables : AdminTables) (sequences : AdminSequences) : DeviceTables where
  deviceGroups := tables.deviceGroups
  devices := tables.devices
  nextDeviceId := sequences.device

/-! ## Constraints -/

/-- The columns of `authorization_unique_user_dg_profile`, none when the principal is a group: rows
with a NULL are not compared. -/
def Authorization.userEdge (row : Authorization) : Option (Nat × Nat × Nat) :=
  row.principalUserId.map fun userId => (userId, row.deviceGroupId, row.privilegeProfileId)

/-- The columns of `authorization_unique_adgroup_dg_profile`, none when the principal is a user. -/
def Authorization.adGroupEdge (row : Authorization) : Option (Nat × Nat × Nat) :=
  row.principalAdGroupId.map fun groupId => (groupId, row.deviceGroupId, row.privilegeProfileId)

/-- The primary keys, unique columns and foreign keys. -/
structure AdminTables.Valid (fold : CaseFolding) (tables : AdminTables) : Prop where
  /-- The identity tables meet their own constraints. -/
  identity : tables.identity.Valid fold
  /-- Primary key of `device_group`. -/
  deviceGroupId : (tables.deviceGroups.map DeviceGroup.id).Nodup
  /-- `device_group.name` is unique. -/
  deviceGroupName : (tables.deviceGroups.map DeviceGroup.name).Nodup
  /-- Primary key of `device`. -/
  deviceId : (tables.devices.map Device.id).Nodup
  /-- `device.name` is unique. -/
  deviceName : (tables.devices.map Device.name).Nodup
  /-- `device.ip_or_cidr` is unique. -/
  deviceIpOrCidr : (tables.devices.map Device.ipOrCidr).Nodup
  /-- `device.device_group_id` references `device_group`. -/
  deviceGroup : ∀ device ∈ tables.devices, ∃ group ∈ tables.deviceGroups,
    group.id = device.deviceGroupId
  /-- Primary key of `privilege_profile`. -/
  privilegeProfileId : (tables.privilegeProfiles.map PrivilegeProfile.id).Nodup
  /-- `privilege_profile.name` is unique. -/
  privilegeProfileName : (tables.privilegeProfiles.map PrivilegeProfile.name).Nodup
  /-- Primary key of `authorization`. -/
  authorizationId : (tables.authorizations.map Authorization.id).Nodup
  /-- `authorization_unique_user_dg_profile`. -/
  authorizationUserEdge : (tables.authorizations.filterMap Authorization.userEdge).Nodup
  /-- `authorization_unique_adgroup_dg_profile`. -/
  authorizationAdGroupEdge : (tables.authorizations.filterMap Authorization.adGroupEdge).Nodup
  /-- `authorization.principal_user_id` references `user`. -/
  authorizationUser : ∀ row ∈ tables.authorizations, ∀ userId ∈ row.principalUserId,
    ∃ user ∈ tables.identity.users, user.id = userId
  /-- `authorization.principal_ad_group_id` references `ad_group`. -/
  authorizationAdGroup : ∀ row ∈ tables.authorizations, ∀ groupId ∈ row.principalAdGroupId,
    ∃ group ∈ tables.identity.adGroups, group.id = groupId
  /-- `authorization.device_group_id` references `device_group`. -/
  authorizationDeviceGroup : ∀ row ∈ tables.authorizations, ∃ group ∈ tables.deviceGroups,
    group.id = row.deviceGroupId
  /-- `authorization.privilege_profile_id` references `privilege_profile`. -/
  authorizationProfile : ∀ row ∈ tables.authorizations, ∃ profile ∈ tables.privilegeProfiles,
    profile.id = row.privilegeProfileId
  /-- `accounting_record.device_id` references `device`. -/
  accountingDevice : ∀ deviceId, some deviceId ∈ tables.accountingDeviceIds →
    ∃ device ∈ tables.devices, device.id = deviceId

/-! ## Statements -/

/-- The database takes the statement, refuses it for a constraint, or cannot store a value. -/
def statement (fits broken : Bool) (tables : AdminTables) (rowId : Nat) :
    Except Fault (AdminTables × Nat) :=
  if !fits then .error .other else if broken then .error .integrity else .ok (tables, rowId)

/-- The values fit the columns of `device`. The secrets are encrypted texts and always do. -/
def DeviceColumns.fits (columns : DeviceColumns) : Bool :=
  textFits (some 128) columns.name && textFits (some 64) columns.ipOrCidr &&
    integerFits (columns.deviceGroupId.map fun id : Nat => (id : Int)) &&
    textFits none columns.description.join

/-- `INSERT`, `UPDATE` and `DELETE` on `device`. An `UPDATE` without columns is not sent, one with
columns needs its row, and a `DELETE` sets `accounting_record.device_id` to NULL. -/
def writeDevice (tables : AdminTables) (sequences : AdminSequences) :
    DeviceWrite → Except Fault (AdminTables × Nat)
  | .insert row =>
    statement ((DeviceColumns.ofRow row).fits && integerFits (some sequences.device))
      ((tables.devices.any fun other => other.id = sequences.device) ||
        violates (tables.deviceTables sequences) sequences.device (.ofRow row))
      { tables with devices := tables.devices ++ [{ row with id := sequences.device }] }
      sequences.device
  | .update deviceId columns =>
    if columns.isEmpty then .ok (tables, deviceId)
    else statement (columns.fits && tables.devices.any fun device => device.id = deviceId)
      (violates (tables.deviceTables sequences) deviceId columns)
      { tables with devices := tables.devices.map fun device =>
          if device.id = deviceId then columns.apply device else device }
      deviceId
  | .delete deviceId =>
    .ok ({ tables with
      devices := tables.devices.filter fun device => device.id ≠ deviceId
      accountingDeviceIds := tables.accountingDeviceIds.map fun reference =>
        if reference = some deviceId then none else reference }, deviceId)

/-- The values fit the columns of `device_group`. -/
def DeviceGroup.fits (row : DeviceGroup) : Bool :=
  textFits (some 128) (some row.name) && textFits none row.description &&
    integerFits (some row.id)

/-- `INSERT` into `device_group`. -/
def insertDeviceGroup (tables : AdminTables) (row : DeviceGroup) :
    Except Fault (AdminTables × Nat) :=
  statement row.fits
    (tables.deviceGroups.any fun other => other.id = row.id || other.name = row.name)
    { tables with deviceGroups := tables.deviceGroups ++ [row] } row.id

/-- `UPDATE` of a row of `device_group`, which must be there. -/
def replaceDeviceGroup (tables : AdminTables) (row : DeviceGroup) :
    Except Fault (AdminTables × Nat) :=
  statement (row.fits && tables.deviceGroups.any fun other => other.id = row.id)
    (tables.deviceGroups.any fun other => other.id ≠ row.id && other.name = row.name)
    { tables with deviceGroups := replaceRow DeviceGroup.id row tables.deviceGroups } row.id

/-- `DELETE` from `device_group`: refused while a device is in the group, and passed on to the
authorizations about it. -/
def deleteDeviceGroupRow (tables : AdminTables) (groupId : Nat) :
    Except Fault (AdminTables × Nat) :=
  statement true (tables.devices.any fun device => device.deviceGroupId = groupId)
    { tables with
      deviceGroups := tables.deviceGroups.filter fun group => group.id ≠ groupId
      authorizations := tables.authorizations.filter fun row => row.deviceGroupId ≠ groupId }
    groupId

/-- The values fit the columns of `privilege_profile`. The patterns and pairs are JSON, which takes
any text. -/
def PrivilegeProfile.fits (row : PrivilegeProfile) : Bool :=
  textFits (some 128) (some row.name) && textFits none row.description &&
    integerFits (some row.id)

/-- `INSERT` into `privilege_profile`. -/
def insertPrivilegeProfile (tables : AdminTables) (row : PrivilegeProfile) :
    Except Fault (AdminTables × Nat) :=
  statement row.fits
    ((tables.privilegeProfiles.any fun other => other.id = row.id) ||
      nameTaken tables.privilegeProfiles row.id row.name)
    { tables with privilegeProfiles := tables.privilegeProfiles ++ [row] } row.id

/-- `UPDATE` of a row of `privilege_profile`, which must be there. -/
def replacePrivilegeProfile (tables : AdminTables) (row : PrivilegeProfile) :
    Except Fault (AdminTables × Nat) :=
  statement (row.fits && tables.privilegeProfiles.any fun other => other.id = row.id)
    (nameTaken tables.privilegeProfiles row.id row.name)
    { tables with
      privilegeProfiles := replaceRow PrivilegeProfile.id row tables.privilegeProfiles }
    row.id

/-- `DELETE` from `privilege_profile`: refused while an authorization grants the profile. -/
def deletePrivilegeProfileRow (tables : AdminTables) (profileId : Nat) :
    Except Fault (AdminTables × Nat) :=
  statement true (tables.authorizations.any fun row => row.privilegeProfileId = profileId)
    { tables with privilegeProfiles :=
        tables.privilegeProfiles.filter fun profile => profile.id ≠ profileId }
    profileId

/-- A new row of `authorization` breaks a reference, or a unique constraint. -/
def authorizationBroken (tables : AdminTables) (row : Authorization) : Bool :=
  (row.principalUserId.any fun userId =>
    !tables.identity.users.any fun user => user.id = userId) ||
  (row.principalAdGroupId.any fun groupId =>
    !tables.identity.adGroups.any fun group => group.id = groupId) ||
  (!tables.deviceGroups.any fun group => group.id = row.deviceGroupId) ||
  (!tables.privilegeProfiles.any fun profile => profile.id = row.privilegeProfileId) ||
  (tables.authorizations.any fun other => other.id = row.id ||
    (row.userEdge.isSome && other.userEdge = row.userEdge) ||
    (row.adGroupEdge.isSome && other.adGroupEdge = row.adGroupEdge))

/-- `INSERT` into `authorization`. -/
def insertAuthorization (tables : AdminTables) (row : Authorization) :
    Except Fault (AdminTables × Nat) :=
  statement (integerFits (some row.id)) (authorizationBroken tables row)
    { tables with authorizations := tables.authorizations ++ [row] } row.id

/-- `DELETE` from `authorization`. -/
def deleteAuthorizationRow (tables : AdminTables) (authorizationId : Nat) :
    Except Fault (AdminTables × Nat) :=
  .ok ({ tables with
    authorizations := tables.authorizations.filter fun row => row.id ≠ authorizationId },
    authorizationId)

/-- A dictionary without a key. -/
def withoutKey (dict : Dict String String) (key : String) : Dict String String :=
  ⟨dict.items.filter fun item => item.1 ≠ key,
    dict.nodup.sublist (List.filter_sublist.map Prod.fst)⟩

/-- A key and its new value, or its removal. -/
def writeKey (dict : Dict String String) (key : String) (value : Option String) :
    Dict String String :=
  match value with
  | none => withoutKey dict key
  | some value => dict.set key value

/-! ## Changes -/

/-- What an audited operation stages in its session. -/
inductive AdminChange where
  /-- A row of `device`. -/
  | device (write : DeviceWrite)
  /-- A new row of `device_group`. -/
  | insertDeviceGroup (name : String) (description : Option String)
  /-- An edited row of `device_group`. -/
  | replaceDeviceGroup (row : DeviceGroup)
  /-- A row of `device_group` to delete. -/
  | deleteDeviceGroup (groupId : Nat)
  /-- A new row of `privilege_profile`. -/
  | insertPrivilegeProfile (payload : PrivilegeProfileCreate)
  /-- An edited row of `privilege_profile`. -/
  | replacePrivilegeProfile (row : PrivilegeProfile)
  /-- A row of `privilege_profile` to delete. -/
  | deletePrivilegeProfile (profileId : Nat)
  /-- A new row of `authorization`; it gets its id from the sequence. -/
  | insertAuthorization (row : Authorization)
  /-- A row of `authorization` to delete. -/
  | deleteAuthorization (authorizationId : Nat)
  /-- A key of `system_setting`, removed when there is no value. -/
  | systemSetting (key : String) (value : Option String)
  /-- A key of `system_secret`, removed when there is no value. -/
  | systemSecret (key : String) (value : Option String)
  /-- What a sync run makes of the identity tables. -/
  | identity (tables : IdentityTables)
  /-- The summary of a sync run. -/
  | lastSyncResult (summary : LdapSyncRunSummary)
  /-- The row of `local_admin`: its name, its hash and what else it holds. -/
  | localAdmin (username passwordArgon2Hash : String) (allowedSourceCidr : Option String)
      (lastLoginAt : Option Nat)
  /-- A row of `audit_log`. -/
  | audit (row : AuditLog)

/-- The change is an audit row. -/
def AdminChange.isAudit : AdminChange → Bool
  | .audit _ => true
  | _ => false

/-- The `local_admin` row with these columns, when they fit. -/
def putLocalAdmin (tables : AdminTables) (username passwordArgon2Hash : String)
    (allowedSourceCidr : Option String) (lastLoginAt : Option Nat) :
    Except Fault (AdminTables × Nat) :=
  if usernameLength : username.length ≤ 64 then
    statement (textFits (some 64) (some username) && textFits (some 512) (some passwordArgon2Hash))
      false
      { tables with localAdmin := some {
          id := 1
          username := username
          passwordArgon2Hash := passwordArgon2Hash
          allowedSourceCidr := allowedSourceCidr
          lastLoginAt := lastLoginAt
          singleton := rfl
          usernameLength := usernameLength } } 1
  else .error .other

/-- `INSERT` into `audit_log`. -/
def insertAudit (tables : AdminTables) (row : AuditLog) : Except Fault (AdminTables × Nat) :=
  statement row.fits false { tables with auditLog := tables.auditLog ++ [row] } 0

/-- What the database does with a change. Tables without a numbered row answer 0. -/
def adminEngine : Engine AdminTables AdminSequences AdminChange :=
  fun change tables sequences =>
    match change with
    | .device (.insert row) => (writeDevice tables sequences (.insert row),
        { sequences with device := sequences.device + 1 })
    | .device write => (writeDevice tables sequences write, sequences)
    | .insertDeviceGroup name description =>
      (insertDeviceGroup tables ⟨sequences.deviceGroup, name, description⟩,
        { sequences with deviceGroup := sequences.deviceGroup + 1 })
    | .replaceDeviceGroup row => (replaceDeviceGroup tables row, sequences)
    | .deleteDeviceGroup groupId => (deleteDeviceGroupRow tables groupId, sequences)
    | .insertPrivilegeProfile payload =>
      (insertPrivilegeProfile tables (payload.row sequences.privilegeProfile),
        { sequences with privilegeProfile := sequences.privilegeProfile + 1 })
    | .replacePrivilegeProfile row => (replacePrivilegeProfile tables row, sequences)
    | .deletePrivilegeProfile profileId => (deletePrivilegeProfileRow tables profileId, sequences)
    | .insertAuthorization row =>
      (insertAuthorization tables { row with id := sequences.authorization },
        { sequences with authorization := sequences.authorization + 1 })
    | .deleteAuthorization authorizationId =>
      (deleteAuthorizationRow tables authorizationId, sequences)
    | .systemSetting key value =>
      (statement (textFits none value) false
        { tables with systemSettings := writeKey tables.systemSettings key value } 0, sequences)
    | .systemSecret key value =>
      (.ok ({ tables with systemSecrets := writeKey tables.systemSecrets key value }, 0), sequences)
    | .identity identity => (.ok ({ tables with identity := identity }, 0), sequences)
    | .lastSyncResult summary =>
      (.ok ({ tables with lastSyncResult := some summary }, 0), sequences)
    | .localAdmin username hash cidr lastLoginAt =>
      (putLocalAdmin tables username hash cidr lastLoginAt, sequences)
    | .audit row => (insertAudit tables row, sequences)

end TacacsWeb.Model
