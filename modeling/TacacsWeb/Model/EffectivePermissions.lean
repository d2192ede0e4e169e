import TacacsWeb.Model.Policy

/-!
# The effective permissions of a user

`GET /users/{id}/effective-permissions` of `app.api.v1.effective_permissions`: load every
rule whose principal is the user or a group of theirs, split the rules by device group, and
evaluate the policy for each group.
-/

namespace TacacsWeb.Model

open TacacsWeb.Library

/-- `_CandidateRead`. -/
structure CandidateRead where
  /-- The rule. -/
  authorizationId : Nat
  /-- Its user principal. -/
  principalUserId : Option Nat
  /-- Its group principal. -/
  principalAdGroupId : Option Nat
  /-- The profile it grants. -/
  privilegeProfileId : Nat
  /-- The level of that profile. -/
  tacacsPrivLvl : Int
deriving DecidableEq

/-- `EffectivePermissionRead`. -/
structure EffectivePermissionRead where
  /-- The device group the entry is about. -/
  deviceGroupId : Nat
  /-- Its name. -/
  deviceGroupName : String
  /-- The rule that decides. -/
  winning : CandidateRead
  /-- The rules that lost to it. -/
  overridden : List CandidateRead
deriving DecidableEq

/-- `_to_candidate`. -/
def toCandidate (auth : LoadedAuthorization) : CandidateRead where
  authorizationId := auth.id
  principalUserId := auth.principalUserId
  principalAdGroupId := auth.principalAdGroupId
  privilegeProfileId := auth.privilegeProfileId
  tacacsPrivLvl := auth.privilegeProfile.tacacsPrivLvl

/-- The condition of the candidate query: a direct rule, or one of a group of the user. -/
def couldMatch (userId : Nat) (groupIds : List Nat) (auth : Authorization) : Bool :=
  auth.principalUserId = some userId || match auth.principalAdGroupId with
    | none => false
    | some groupId => groupIds.contains groupId

/-- `by_dg.setdefault(auth.device_group_id, []).append(auth)`. -/
def appendByGroup (byGroup : Dict Nat (List LoadedAuthorization)) (auth : LoadedAuthorization) :
    Dict Nat (List LoadedAuthorization) :=
  byGroup.set auth.deviceGroupId (byGroup.getD auth.deviceGroupId [] ++ [auth])

/-- The rules split by device group. -/
def splitByGroup (candidates : List LoadedAuthorization) : Dict Nat (List LoadedAuthorization) :=
  candidates.foldl appendByGroup Dict.empty

/-- `dgs[dg_id].name if dg_id in dgs else ""`. -/
def deviceGroupName (db : Database) (deviceGroupId : Nat) : String :=
  match db.deviceGroups.find? (fun group => group.id = deviceGroupId) with
  | none => ""
  | some group => group.name

/-- One iteration of the output loop; a group without a winner gets no entry. -/
def permissionEntry (db : Database) (user : LoadedUser)
    (group : Nat × List LoadedAuthorization) : Option EffectivePermissionRead :=
  let outcome := evaluateForUser user group.1 group.2
  outcome.winning.map fun winning =>
    ⟨group.1, deviceGroupName db group.1, toCandidate winning, outcome.overridden.map toCandidate⟩

/-- `list_effective_permissions`; an unknown user is answered with a 404. -/
def listEffectivePermissions (db : Database) (authorizationOrder : RowOrder Authorization)
    (userId : Nat) : Option (List EffectivePermissionRead) :=
  match db.identity.users.find? (fun user => user.id = userId) with
  | none => none
  | some row =>
    let user := db.identity.load row
    let candidates := db.selectAuthorizations authorizationOrder
      (couldMatch userId (user.groups.map ADGroup.id))
    some (((splitByGroup candidates).items.filterMap (permissionEntry db user)).insertionSort
      fun a b => a.deviceGroupId ≤ b.deviceGroupId)

/-! ## The split -/

/-- The list kept under a group. -/
theorem appendByGroup_getD (byGroup : Dict Nat (List LoadedAuthorization))
    (auth : LoadedAuthorization) (deviceGroupId : Nat) :
    (appendByGroup byGroup auth).getD deviceGroupId [] =
      byGroup.getD deviceGroupId [] ++
        if auth.deviceGroupId = deviceGroupId then [auth] else [] := by
  unfold appendByGroup
  by_cases same : auth.deviceGroupId = deviceGroupId
  · subst same
    simp [Dict.getD]
  · have different : deviceGroupId ≠ auth.deviceGroupId := fun found => same found.symm
    simp [Dict.getD, same, different]

/-- Each group keeps its own rules in the order of the candidates. -/
theorem splitByGroup_getD (candidates : List LoadedAuthorization) (deviceGroupId : Nat) :
    (splitByGroup candidates).getD deviceGroupId [] =
      candidates.filter fun auth => auth.deviceGroupId = deviceGroupId := by
  have general : ∀ (rules : List LoadedAuthorization) (start : Dict Nat (List LoadedAuthorization)),
      (rules.foldl appendByGroup start).getD deviceGroupId [] =
        start.getD deviceGroupId [] ++
          rules.filter fun auth => auth.deviceGroupId = deviceGroupId := by
    intro rules
    induction rules with
    | nil => intro start; simp
    | cons auth rules ih =>
      intro start
      rw [List.foldl_cons, ih, appendByGroup_getD]
      by_cases same : auth.deviceGroupId = deviceGroupId <;> simp [same]
  exact (general candidates Dict.empty).trans (List.nil_append _)

end TacacsWeb.Model
