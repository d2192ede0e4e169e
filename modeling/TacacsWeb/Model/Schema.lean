import TacacsWeb.Library.Dict
import Mathlib.Data.List.Perm.Basic

/-!
# Tables of the application database

The rows of `app.db.models` that the modelled code reads or writes, with their CHECK
constraints carried as fields, and the constraints that span a table as predicates. A
`SELECT` without `ORDER BY` may return its rows in any order, so a query takes a
`RowOrder`. Lower-casing is a parameter: Python's `str.lower` and the database's `lower`
are separate functions that the code compares with each other.
-/

namespace TacacsWeb.Model

open TacacsWeb.Library

/-- The two lower-casing functions that meet in a comparison. -/
structure CaseFolding where
  /-- `lower(...)` in SQL. -/
  sql : String → String
  /-- `str.lower()` in Python. -/
  python : String → String

/-- ASCII lower-casing on both sides. -/
def CaseFolding.ascii : CaseFolding where
  sql text := String.ofList (text.toList.map Char.toLower)
  python text := String.ofList (text.toList.map Char.toLower)

/-- The order in which a query without `ORDER BY` returns the rows it selects. -/
structure RowOrder (Row : Type) where
  /-- The rows as returned. -/
  rows : List Row → List Row
  /-- Nothing is added, dropped or repeated. -/
  perm : ∀ selected, (rows selected).Perm selected

/-- The rows in table order. -/
def RowOrder.asStored (Row : Type) : RowOrder Row := ⟨fun rows => rows, fun _ => .refl _⟩

/-- The rows in reverse table order. -/
def RowOrder.reversed (Row : Type) : RowOrder Row := ⟨List.reverse, List.reverse_perm⟩

/-! ## Identity tables -/

/-- A row of `user`. -/
structure User where
  /-- Primary key. -/
  id : Nat
  /-- The AD login name. -/
  samAccountName : String
  /-- The AD object the row was synced from. -/
  adObjectGuid : Option String
  /-- The DN used for the live bind. -/
  distinguishedName : String
  /-- User principal name. -/
  upn : Option String
  /-- Display name. -/
  displayName : Option String
  /-- Cleared when the account drops out of the sync scope. -/
  enabled : Bool
  /-- Time of the last sync that saw the account. -/
  lastSeenInSyncAt : Option Nat
deriving DecidableEq

/-- A row of `ad_group`. -/
structure ADGroup where
  /-- Primary key. -/
  id : Nat
  /-- Security identifier in string form. -/
  sid : String
  /-- Group DN. -/
  distinguishedName : String
  /-- Group name. -/
  name : Option String
  /-- Time of the last sync that saw the group. -/
  lastSeenInSyncAt : Option Nat
deriving DecidableEq

/-- A row of `user_ad_group`. -/
structure UserADGroup where
  /-- The member. -/
  userId : Nat
  /-- The group. -/
  adGroupId : Nat
deriving DecidableEq

/-- The tables that a sync writes, with the sequences that number their rows. -/
structure IdentityTables where
  /-- `user`. -/
  users : List User
  /-- `ad_group`. -/
  adGroups : List ADGroup
  /-- `user_ad_group`. -/
  userAdGroups : List UserADGroup
  /-- Next value of the `user` sequence. -/
  nextUserId : Nat
  /-- Next value of the `ad_group` sequence. -/
  nextAdGroupId : Nat
deriving DecidableEq

/-- The uniqueness constraints of the identity tables, and the sequences being ahead. -/
structure IdentityTables.Valid (fold : CaseFolding) (tables : IdentityTables) : Prop where
  /-- Primary key of `user`. -/
  userId : (tables.users.map User.id).Nodup
  /-- `user.sam_account_name` is unique. -/
  samAccountName : (tables.users.map User.samAccountName).Nodup
  /-- `lower(user.sam_account_name)` is unique. -/
  lowerSamAccountName : (tables.users.map fun user => fold.sql user.samAccountName).Nodup
  /-- `user.ad_object_guid` is unique where set. -/
  adObjectGuid : (tables.users.filterMap User.adObjectGuid).Nodup
  /-- Primary key of `ad_group`. -/
  adGroupId : (tables.adGroups.map ADGroup.id).Nodup
  /-- `ad_group.sid` is unique. -/
  sid : (tables.adGroups.map ADGroup.sid).Nodup
  /-- Primary key of `user_ad_group`. -/
  userAdGroup : tables.userAdGroups.Nodup
  /-- Every `user` id came from the sequence. -/
  userSequence : ∀ user ∈ tables.users, user.id < tables.nextUserId
  /-- Every `ad_group` id came from the sequence. -/
  adGroupSequence : ∀ group ∈ tables.adGroups, group.id < tables.nextAdGroupId

/-- A user with the groups that `selectinload(User.groups)` attaches. -/
structure LoadedUser extends User where
  /-- The groups of the membership rows. -/
  groups : List ADGroup

/-- Attach the groups of a user. -/
def IdentityTables.load (tables : IdentityTables) (user : User) : LoadedUser :=
  { user with
    groups := tables.adGroups.filter fun group => ⟨user.id, group.id⟩ ∈ tables.userAdGroups }

/-! ## Domain tables -/

/-- A row of `device_group`. -/
structure DeviceGroup where
  /-- Primary key. -/
  id : Nat
  /-- Unique name. -/
  name : String
  /-- Free text. -/
  description : Option String
deriving DecidableEq

/-- A row of `device`. -/
structure Device where
  /-- Primary key. -/
  id : Nat
  /-- Unique name. -/
  name : String
  /-- A host address or a CIDR block. -/
  ipOrCidr : String
  /-- The one group of the device. -/
  deviceGroupId : Nat
  /-- The shared secret in use, decrypted at load time. -/
  currentSecretEnc : Option String
  /-- The secret before the last rotation, while the rotation window is open. -/
  previousSecretEnc : Option String
  /-- When the previous secret was retired. -/
  previousRetiredAt : Option Nat
  /-- Free text. -/
  description : Option String
deriving DecidableEq

/-- A row of `privilege_profile`. -/
structure PrivilegeProfile where
  /-- Primary key. -/
  id : Nat
  /-- Unique name. -/
  name : String
  /-- The level a shell session gets. -/
  tacacsPrivLvl : Int
  /-- Patterns of permitted commands. -/
  permitCommandsRegex : List String
  /-- Patterns of denied commands. -/
  denyCommandsRegex : List String
  /-- Further attributes set on the shell session. -/
  extraAvPairs : Dict String String
  /-- Free text. -/
  description : Option String
  /-- `privilege_profile_priv_lvl_range`. -/
  privLvlRange : 0 ≤ tacacsPrivLvl ∧ tacacsPrivLvl ≤ 15
deriving DecidableEq

/-- A row of `authorization`. -/
structure Authorization where
  /-- Primary key. -/
  id : Nat
  /-- The user, when the principal is one. -/
  principalUserId : Option Nat
  /-- The AD group, when the principal is one. -/
  principalAdGroupId : Option Nat
  /-- The device group the rule is about. -/
  deviceGroupId : Nat
  /-- The profile the rule grants. -/
  privilegeProfileId : Nat
  /-- `authorization_exactly_one_principal`. -/
  exactlyOnePrincipal : principalUserId.isSome ≠ principalAdGroupId.isSome
deriving DecidableEq

namespace Authorization

/-- `is_direct`: the principal is a user. -/
def isDirect (authorization : Authorization) : Bool := authorization.principalUserId.isSome

end Authorization

/-- An authorization with the profile that the eager join attaches. -/
structure LoadedAuthorization extends Authorization where
  /-- The joined profile. -/
  privilegeProfile : PrivilegeProfile
  /-- The join condition. -/
  joined : privilegeProfile.id = privilegeProfileId

/-! ## The whole database -/

/-- The tables read by the handlers. -/
structure Database where
  /-- The tables that the sync owns. -/
  identity : IdentityTables
  /-- `device_group`. -/
  deviceGroups : List DeviceGroup
  /-- `device`. -/
  devices : List Device
  /-- `privilege_profile`. -/
  privilegeProfiles : List PrivilegeProfile
  /-- `authorization`. -/
  authorizations : List Authorization
  /-- `system_setting`. -/
  systemSettings : Dict String String

namespace Database

/-- Primary and foreign keys of the domain tables over valid identity tables. -/
structure Valid (fold : CaseFolding) (db : Database) : Prop where
  /-- The identity tables meet their own constraints. -/
  identity : db.identity.Valid fold
  /-- Primary key of `privilege_profile`. -/
  privilegeProfileId : (db.privilegeProfiles.map PrivilegeProfile.id).Nodup
  /-- Primary key of `authorization`. -/
  authorizationId : (db.authorizations.map Authorization.id).Nodup
  /-- `authorization.privilege_profile_id` references `privilege_profile`. -/
  authorizationProfile : ∀ authorization ∈ db.authorizations,
    ∃ profile ∈ db.privilegeProfiles, profile.id = authorization.privilegeProfileId

/-- The eager join of one authorization row with its profile. -/
def joinProfile (db : Database) (authorization : Authorization) : Option LoadedAuthorization :=
  match found : db.privilegeProfiles.find? (fun profile =>
      profile.id = authorization.privilegeProfileId) with
  | none => none
  | some profile =>
    some { authorization with
      privilegeProfile := profile
      joined := by simpa using List.find?_some found }

/-- `select(Authorization).where(...)` with its eager join. -/
def selectAuthorizations (db : Database) (order : RowOrder Authorization)
    (condition : Authorization → Bool) : List LoadedAuthorization :=
  (order.rows (db.authorizations.filter condition)).filterMap db.joinProfile

end Database

/-- `scalar_one_or_none()`: more than one row raises. -/
def scalarOneOrNone {Row : Type} : List Row → Except Unit (Option Row)
  | [] => .ok none
  | [row] => .ok (some row)
  | _ => .error ()

end TacacsWeb.Model
