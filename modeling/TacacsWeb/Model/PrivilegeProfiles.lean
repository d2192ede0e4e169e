import TacacsWeb.Library.Run
import TacacsWeb.Model.Devices

/-!
# Privilege profile requests

`app.api.v1.privilege_profiles`: creation and editing, each with the validation that its payload
carries. Deletion has no payload and is with the other handlers, in `AdminRequests`.
-/

namespace TacacsWeb.Model

open TacacsWeb.Library TacacsWeb.Library.Text

/-- `PrivilegeProfileCreate`. -/
structure PrivilegeProfileCreate where
  /-- The name. -/
  name : String
  /-- The level of a shell session. -/
  tacacsPrivLvl : Int
  /-- Patterns of permitted commands. -/
  permitCommandsRegex : List String
  /-- Patterns of denied commands. -/
  denyCommandsRegex : List String
  /-- Further attributes, any texts. -/
  extraAvPairs : Dict String String
  /-- Free text. -/
  description : Option String
  /-- `min_length=1, max_length=128`. -/
  nameLength : 1 ≤ name.length ∧ name.length ≤ 128
  /-- `ge=0, le=15`. -/
  privLvlRange : 0 ≤ tacacsPrivLvl ∧ tacacsPrivLvl ≤ 15
  /-- `max_length=2048`. -/
  descriptionLength : ∀ value ∈ description, value.length ≤ 2048

/-- `PrivilegeProfileUpdate`. -/
structure PrivilegeProfileUpdate where
  /-- The new name. -/
  name : Option String
  /-- The new level. -/
  tacacsPrivLvl : Option Int
  /-- The new patterns of permitted commands. -/
  permitCommandsRegex : Option (List String)
  /-- The new patterns of denied commands. -/
  denyCommandsRegex : Option (List String)
  /-- The new further attributes. -/
  extraAvPairs : Option (Dict String String)
  /-- The new free text. -/
  description : Option String
  /-- `min_length=1, max_length=128`. -/
  nameLength : ∀ value ∈ name, 1 ≤ value.length ∧ value.length ≤ 128
  /-- `ge=0, le=15`. -/
  privLvlRange : ∀ value ∈ tacacsPrivLvl, 0 ≤ value ∧ value ≤ 15
  /-- `max_length=2048`. -/
  descriptionLength : ∀ value ∈ description, value.length ≤ 2048

/-- The table that a profile request reads and writes. -/
structure ProfileTable where
  /-- `privilege_profile`. -/
  profiles : List PrivilegeProfile
  /-- Next value of the `privilege_profile` sequence. -/
  nextProfileId : Nat
deriving DecidableEq

/-- The row that a creation inserts. -/
def PrivilegeProfileCreate.row (payload : PrivilegeProfileCreate) (id : Nat) :
    PrivilegeProfile where
  id := id
  name := payload.name
  tacacsPrivLvl := payload.tacacsPrivLvl
  permitCommandsRegex := payload.permitCommandsRegex
  denyCommandsRegex := payload.denyCommandsRegex
  extraAvPairs := payload.extraAvPairs
  description := payload.description
  privLvlRange := payload.privLvlRange

/-- The row after an edit. -/
def PrivilegeProfileUpdate.edit (payload : PrivilegeProfileUpdate) (row : PrivilegeProfile) :
    PrivilegeProfile where
  id := row.id
  name := payload.name.getD row.name
  tacacsPrivLvl := payload.tacacsPrivLvl.getD row.tacacsPrivLvl
  permitCommandsRegex := payload.permitCommandsRegex.getD row.permitCommandsRegex
  denyCommandsRegex := payload.denyCommandsRegex.getD row.denyCommandsRegex
  extraAvPairs := payload.extraAvPairs.getD row.extraAvPairs
  description := payload.description.or row.description
  privLvlRange := by
    have given := payload.privLvlRange
    cases level : payload.tacacsPrivLvl with
    | none => exact row.privLvlRange
    | some value => exact given value level

/-- The notes of an edit, in the order of the handler. -/
def PrivilegeProfileUpdate.notes (printable : Char → Bool) (payload : PrivilegeProfileUpdate)
    (row : PrivilegeProfile) : List String :=
  (match payload.name with
    | none => []
    | some name => if name = row.name then []
      else ["name " ++ pyRepr printable row.name ++ "->" ++ pyRepr printable name]) ++
  (match payload.tacacsPrivLvl with
    | none => []
    | some level => if level = row.tacacsPrivLvl then []
      else ["priv-lvl " ++ toString row.tacacsPrivLvl ++ "->" ++ toString level]) ++
  (if payload.permitCommandsRegex.isSome then ["permit_commands"] else []) ++
  (if payload.denyCommandsRegex.isSome then ["deny_commands"] else []) ++
  (if payload.extraAvPairs.isSome then ["extra_av_pairs"] else []) ++
  (if payload.description.isSome then ["description"] else [])

/-- A name is taken by a row other than the one with an id. -/
def nameTaken (profiles : List PrivilegeProfile) (profileId : Nat) (name : String) : Bool :=
  profiles.any fun other => other.id ≠ profileId && other.name = name

/-- `create_privilege_profile`. -/
def createPrivilegeProfile (ctx : SessionContext) (table : ProfileTable)
    (payload : PrivilegeProfileCreate) : Except HttpError (ProfileTable × AuditLog) :=
  let row := payload.row table.nextProfileId
  if nameTaken table.profiles row.id row.name then .error ⟨409, some "name_already_exists"⟩
  else .ok (⟨table.profiles ++ [row], table.nextProfileId + 1⟩,
    appendCrud ctx .privilegeProfileCreated "privilege_profile" row.id
      (some (row.name ++ " priv-lvl=" ++ toString row.tacacsPrivLvl)))

/-- `update_privilege_profile`. -/
def updatePrivilegeProfile (printable : Char → Bool) (ctx : SessionContext) (table : ProfileTable)
    (profileId : Nat) (payload : PrivilegeProfileUpdate) :
    Except HttpError (ProfileTable × AuditLog) :=
  match table.profiles.find? fun profile => profile.id = profileId with
  | none => .error ⟨404, none⟩
  | some row =>
    let edited := payload.edit row
    let notes := payload.notes printable row
    if nameTaken table.profiles profileId edited.name then
      .error ⟨409, some "name_already_exists"⟩
    else .ok ({ table with profiles := table.profiles.map fun profile =>
        if profile.id = profileId then edited else profile },
      appendCrud ctx .privilegeProfileUpdated "privilege_profile" row.id
        (some (edited.name ++ ": " ++ (if notes = [] then "no-op" else ", ".intercalate notes))))

/-- The requests that write a profile. -/
inductive ProfileRequest where
  /-- `POST /privilege-profiles`. -/
  | create (payload : PrivilegeProfileCreate)
  /-- `PATCH /privilege-profiles/{id}`. -/
  | update (profileId : Nat) (payload : PrivilegeProfileUpdate)

/-- One request, undefined when it is refused. -/
def profileStep (printable : Char → Bool) (ctx : SessionContext) :
    Step ProfileTable ProfileRequest
  | table, .create payload =>
    (createPrivilegeProfile ctx table payload).toOption.map Prod.fst
  | table, .update profileId payload =>
    (updatePrivilegeProfile printable ctx table profileId payload).toOption.map Prod.fst

/-- The table before the first request. -/
def ProfileTable.empty : ProfileTable := ⟨[], 1⟩

/-- A profile that some run of requests leaves in the table. -/
def ReachableProfile (printable : Char → Bool) (ctx : SessionContext)
    (profile : PrivilegeProfile) : Prop :=
  ∃ requests table, (profileStep printable ctx).run .empty requests = some table ∧
    profile ∈ table.profiles

end TacacsWeb.Model
