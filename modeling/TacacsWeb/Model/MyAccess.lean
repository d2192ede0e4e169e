import TacacsWeb.Library.LikePattern
import TacacsWeb.Library.Text
import TacacsWeb.Model.EffectivePermissions

/-!
# The access of the caller

`GET /me/access` of `app.api.v1.effective_permissions`: find the user of the session by matching the
name of the session against the account names, then against the principal names, and summarise the
access of that user.
-/

namespace TacacsWeb.Model

open TacacsWeb.Library TacacsWeb.Library.Text TacacsWeb.Library.LikePattern

/-! ## The lookup -/

/-- `text ILIKE pattern`, which lower-cases both; none where it raises. -/
def ilike (fold : CaseFolding) (pattern text : String) : Option Bool :=
  matchesLike (fold.sql pattern).toList (fold.sql text).toList

/-- The condition of a lookup on a row; a NULL is not selected. -/
def ilikeColumn (fold : CaseFolding) (column : User → Option String) (pattern : String)
    (user : User) : Option Bool :=
  match column user with
  | none => some false
  | some text => ilike fold pattern text

/-- `scalar_one_or_none()` of the users whose column matches. -/
def lookupUser (fold : CaseFolding) (column : User → Option String) (users : List User)
    (pattern : String) : Except Unit (Option User) :=
  if users.any fun user => (ilikeColumn fold column pattern user).isNone then .error ()
  else scalarOneOrNone (users.filter fun user => ilikeColumn fold column pattern user = some true)

/-- `User.sam_account_name`, which is never null. -/
def samColumn (user : User) : Option String := some user.samAccountName

/-- The user that `my_access` answers for. -/
def resolveCaller (fold : CaseFolding) (users : List User) (username : String) :
    Except Unit (Option User) :=
  if username = "" then .ok none
  else match lookupUser fold samColumn users username with
    | .error _ => .error ()
    | .ok (some user) => .ok (some user)
    | .ok none =>
      if '@' ∈ username.toList then lookupUser fold User.upn users username else .ok none

/-! ## The summary -/

/-- `_DeviceRead`. -/
structure AccessDeviceRead where
  /-- Primary key. -/
  id : Nat
  /-- The name. -/
  name : String
  /-- The host address or CIDR block. -/
  ipOrCidr : String
deriving DecidableEq

/-- `MyAccessGroupRead`. -/
structure MyAccessGroupRead where
  /-- The device group. -/
  deviceGroupId : Nat
  /-- Its name. -/
  deviceGroupName : String
  /-- The level that the caller has. -/
  tacacsPrivLvl : Int
  /-- The profile that gives it. -/
  privilegeProfileName : String
  /-- The group of the caller that the deciding rule is about. -/
  viaAdGroupName : Option String
  /-- The first devices. -/
  devices : List AccessDeviceRead
  /-- How many devices there are. -/
  deviceCount : Nat
deriving DecidableEq

/-- `MyAccessRead`. -/
structure MyAccessRead where
  /-- The account name of the user that was found. -/
  tacacsUsername : Option String
  /-- Their display name. -/
  displayName : Option String
  /-- What they have access to. -/
  groups : List MyAccessGroupRead
deriving DecidableEq

/-- `MY_ACCESS_DEVICE_PREVIEW`. -/
def myAccessDevicePreview : Nat := 50

/-- One iteration of the output loop; a group without a winner gets no entry. The devices come in
the order of their names that the database has. -/
def accessEntry (db : Database) (byName : RowOrder Device) (user : LoadedUser)
    (group : Nat × List LoadedAuthorization) : Option MyAccessGroupRead :=
  (evaluateForUser user group.1 group.2).winning.map fun winner =>
    let profile := db.privilegeProfiles.find? fun profile => profile.id = winner.privilegeProfileId
    let devices := byName.rows (db.devices.filter fun device => device.deviceGroupId = group.1)
    { deviceGroupId := group.1
      deviceGroupName := deviceGroupName db group.1
      tacacsPrivLvl := (profile.map PrivilegeProfile.tacacsPrivLvl).getD (-1)
      privilegeProfileName := (profile.map PrivilegeProfile.name).getD ""
      viaAdGroupName :=
        if winner.principalUserId = some user.id then none
        else (user.groups.find? fun adGroup => some adGroup.id = winner.principalAdGroupId).bind
          ADGroup.name
      devices := (devices.take myAccessDevicePreview).map fun device =>
        ⟨device.id, device.name, device.ipOrCidr⟩
      deviceCount := devices.length }

/-- What `my_access` answers about a user. -/
def accessOf (db : Database) (order : RowOrder Authorization) (byName : RowOrder Device)
    (row : User) : MyAccessRead :=
  let user := db.identity.load row
  let candidates := db.selectAuthorizations order
    (couldMatch user.id (user.groups.map ADGroup.id))
  { tacacsUsername := some row.samAccountName
    displayName := row.displayName
    groups := ((splitByGroup candidates).items.filterMap
      (accessEntry db byName user)).insertionSort
        fun left right => left.deviceGroupName ≤ right.deviceGroupName }

/-- `my_access` for the name of a session. -/
def myAccess (fold : CaseFolding) (order : RowOrder Authorization) (byName : RowOrder Device)
    (db : Database) (sessionUsername : String) : Except Unit MyAccessRead :=
  match resolveCaller fold db.identity.users (strip sessionUsername) with
  | .error _ => .error ()
  | .ok none => .ok ⟨none, none, []⟩
  | .ok (some user) => .ok (accessOf db order byName user)

end TacacsWeb.Model
