import TacacsWeb.Model.AdminTables

/-!
# The requests of the admin API

The handlers of `app.api.v1.devices`, `device_groups`, `privilege_profiles` and `authorizations`
that change a resource, as scripts over their session. A handler looks its rows up, stages its
change and the audit row, and commits once; the creations and the edits flush in between, so that a
broken constraint comes out there and a new row has its id. The caller is the `SessionContext` that
`require_session` has found and committed before. What follows the commit only reads: the refreshed
row, and for a device the rewriting of `hosts.cfg`, whose write errors are swallowed.
-/

namespace TacacsWeb.Model

open TacacsWeb.Library.Text TacacsWeb.Library.UnitOfWork

/-! ## Payloads -/

/-- `DeviceGroupCreate`. -/
structure DeviceGroupCreate where
  /-- The name. -/
  name : String
  /-- Free text. -/
  description : Option String
  /-- `min_length=1, max_length=128`. -/
  nameLength : 1 ≤ name.length ∧ name.length ≤ 128
  /-- `max_length=2048`. -/
  descriptionLength : ∀ value ∈ description, value.length ≤ 2048

/-- `DeviceGroupUpdate`. -/
structure DeviceGroupUpdate where
  /-- The new name. -/
  name : Option String
  /-- The new free text. -/
  description : Option String
  /-- `min_length=1, max_length=128`. -/
  nameLength : ∀ value ∈ name, 1 ≤ value.length ∧ value.length ≤ 128
  /-- `max_length=2048`. -/
  descriptionLength : ∀ value ∈ description, value.length ≤ 2048

/-- The row after an edit. -/
def DeviceGroupUpdate.edit (payload : DeviceGroupUpdate) (row : DeviceGroup) : DeviceGroup where
  id := row.id
  name := payload.name.getD row.name
  description := payload.description.or row.description

/-- The notes of an edit, in the order of the handler. -/
def DeviceGroupUpdate.notes (printable : Char → Bool) (payload : DeviceGroupUpdate)
    (row : DeviceGroup) : List String :=
  (match payload.name with
    | none => []
    | some name => if name = row.name then []
      else ["name " ++ pyRepr printable row.name ++ "->" ++ pyRepr printable name]) ++
  (if payload.description.isSome then ["description"] else [])

/-- The principal of a new authorization: `_exactly_one_principal` leaves exactly one of the two
ids set. -/
inductive AuthorizationPrincipal where
  /-- `principal_user_id`. -/
  | user (id : Int)
  /-- `principal_ad_group_id`. -/
  | adGroup (id : Int)
deriving DecidableEq

/-- `AuthorizationCreate`. -/
structure AuthorizationCreate where
  /-- Who is authorized. -/
  principal : AuthorizationPrincipal
  /-- The device group the rule is about. -/
  deviceGroupId : Int
  /-- The profile the rule grants. -/
  privilegeProfileId : Int
deriving DecidableEq

/-! ## The shape of a handler -/

/-- How an operation answers. -/
inductive Reply where
  /-- A response with a status. -/
  | response (status : Nat)
  /-- An error response. -/
  | refusal (error : HttpError)
  /-- The exit code of a command. -/
  | exit (code : Nat)
deriving DecidableEq

/-- An operation over its session. -/
abbrev AdminScript := Script AdminTables AdminSequences AdminChange Reply

/-- `raise HTTPException(...)`. -/
def refuse (status : Nat) (detail : Option String) : AdminScript :=
  .respond (.refusal ⟨status, detail⟩)

/-- `session.get(...)`: an id beyond the column is an error of the driver. -/
def sessionGet {Row : Type} (rows : List Row) (key : Row → Nat) (id : Int) (missing : AdminScript)
    (found : Row → AdminScript) : AdminScript :=
  if integerFits (some id) then
    match rows.find? fun row => (key row : Int) = id with
    | none => missing
    | some row => found row
  else .raise

/-- A flush under `except IntegrityError`, then the audit row with the id it gave, and the
commit. -/
def flushThenAudit (change : AdminChange) (conflict : String) (audit : Nat → AuditLog)
    (status : Nat) : AdminScript :=
  .write change (.rollback (refuse 409 (some conflict))) fun rowId =>
    .stage (.audit (audit rowId)) (.commit .raise (.respond (.response status)))

/-- The change and the audit row in one commit. Its flush inserts the audit row before it updates
or deletes the loaded row. -/
def auditThenCommit (change : AdminChange) (audit : AuditLog) (refused : AdminScript)
    (status : Nat) : AdminScript :=
  .stage (.audit audit) (.stage change (.commit refused (.respond (.response status))))

/-! ## Devices -/

/-- The error of a preparation, or what is done with what it prepared. -/
def whenPrepared (prepared : Except HttpError PreparedChange)
    (next : PreparedChange → AdminScript) : AdminScript :=
  match prepared with
  | .error error => .respond (.refusal error)
  | .ok change => next change

/-- `create_device`. -/
def createDeviceHandler (ctx : SessionContext) (payload : DeviceCreate) : AdminScript :=
  .query fun tables sequences =>
    if integerFits (some payload.deviceGroupId) then
      whenPrepared (createDevice (tables.deviceTables sequences) payload) fun change =>
        flushThenAudit (.device change.write) "name_or_ip_already_exists" (change.audit ctx) 201
    else .raise

/-- `update_device`. -/
def updateDeviceHandler (printable : Char → Bool) (ctx : SessionContext) (deviceId : Int)
    (payload : DeviceUpdate) : AdminScript :=
  .query fun tables sequences =>
    sessionGet tables.devices Device.id deviceId (refuse 404 none) fun row =>
      if integerFits payload.deviceGroupId then
        whenPrepared (updateDevice printable (tables.deviceTables sequences) row.id payload)
          fun change =>
            flushThenAudit (.device change.write) "name_or_ip_already_exists" (change.audit ctx) 200
      else .raise

/-- A handler that changes a loaded device and commits without a flush of its own. -/
def changeDeviceHandler (ctx : SessionContext) (deviceId : Int)
    (prepared : DeviceTables → Nat → Except HttpError PreparedChange) (status : Nat) :
    AdminScript :=
  .query fun tables sequences =>
    sessionGet tables.devices Device.id deviceId (refuse 404 none) fun row =>
      whenPrepared (prepared (tables.deviceTables sequences) row.id) fun change =>
        auditThenCommit (.device change.write) (change.audit ctx row.id) .raise status

/-- `delete_device`. -/
def deleteDeviceHandler (ctx : SessionContext) (deviceId : Int) : AdminScript :=
  changeDeviceHandler ctx deviceId deleteDevice 204

/-- `rotate_secret`. -/
def rotateSecretHandler (ctx : SessionContext) (deviceId : Int) (payload : DeviceRotateSecret) :
    AdminScript :=
  changeDeviceHandler ctx deviceId (fun tables id => rotateSecret tables id payload) 200

/-- `retire_previous_secret`, at a time. -/
def retirePreviousSecretHandler (ctx : SessionContext) (deviceId : Int) (now : Nat) :
    AdminScript :=
  changeDeviceHandler ctx deviceId (fun tables id => retirePreviousSecret tables id now) 200

/-! ## Device groups -/

/-- `create_device_group`. -/
def createDeviceGroupHandler (ctx : SessionContext) (payload : DeviceGroupCreate) : AdminScript :=
  flushThenAudit (.insertDeviceGroup payload.name payload.description) "name_already_exists"
    (fun rowId => appendCrud ctx .deviceGroupCreated "device_group" rowId (some payload.name)) 201

/-- `update_device_group`. -/
def updateDeviceGroupHandler (printable : Char → Bool) (ctx : SessionContext)
    (deviceGroupId : Int) (payload : DeviceGroupUpdate) : AdminScript :=
  .query fun tables _ =>
    sessionGet tables.deviceGroups DeviceGroup.id deviceGroupId (refuse 404 none) fun row =>
      let edited := payload.edit row
      let notes := payload.notes printable row
      flushThenAudit (.replaceDeviceGroup edited) "name_already_exists"
        (fun rowId => appendCrud ctx .deviceGroupUpdated "device_group" rowId
          (some (edited.name ++ ": " ++
            (if notes = [] then "no-op" else ", ".intercalate notes)))) 200

/-- `delete_device_group`. -/
def deleteDeviceGroupHandler (ctx : SessionContext) (deviceGroupId : Int) : AdminScript :=
  .query fun tables _ =>
    sessionGet tables.deviceGroups DeviceGroup.id deviceGroupId (refuse 404 none) fun row =>
      auditThenCommit (.deleteDeviceGroup row.id)
        (appendCrud ctx .deviceGroupDeleted "device_group" row.id (some row.name))
        (.rollback (refuse 409 (some "device_group_in_use"))) 204

/-! ## Privilege profiles -/

/-- `create_privilege_profile`. -/
def createPrivilegeProfileHandler (ctx : SessionContext) (payload : PrivilegeProfileCreate) :
    AdminScript :=
  flushThenAudit (.insertPrivilegeProfile payload) "name_already_exists"
    (fun rowId => appendCrud ctx .privilegeProfileCreated "privilege_profile" rowId
      (some (payload.name ++ " priv-lvl=" ++ toString payload.tacacsPrivLvl))) 201

/-- `update_privilege_profile`. -/
def updatePrivilegeProfileHandler (printable : Char → Bool) (ctx : SessionContext)
    (profileId : Int) (payload : PrivilegeProfileUpdate) : AdminScript :=
  .query fun tables _ =>
    sessionGet tables.privilegeProfiles PrivilegeProfile.id profileId (refuse 404 none) fun row =>
      let edited := payload.edit row
      let notes := payload.notes printable row
      flushThenAudit (.replacePrivilegeProfile edited) "name_already_exists"
        (fun rowId => appendCrud ctx .privilegeProfileUpdated "privilege_profile" rowId
          (some (edited.name ++ ": " ++
            (if notes = [] then "no-op" else ", ".intercalate notes)))) 200

/-- `delete_privilege_profile`. -/
def deletePrivilegeProfileHandler (ctx : SessionContext) (profileId : Int) : AdminScript :=
  .query fun tables _ =>
    sessionGet tables.privilegeProfiles PrivilegeProfile.id profileId (refuse 404 none) fun row =>
      auditThenCommit (.deletePrivilegeProfile row.id)
        (appendCrud ctx .privilegeProfileDeleted "privilege_profile" row.id (some row.name))
        (.rollback (refuse 409 (some "profile_in_use"))) 204

/-! ## Authorizations -/

/-- The summary of an audit row about an authorization. -/
def authorizationSummary (row : Authorization) : String :=
  (match row.principalUserId with
    | some userId => s!"user#{userId}"
    | none => s!"ad_group#{row.principalAdGroupId.getD 0}") ++
    s!" -> dg#{row.deviceGroupId} profile#{row.privilegeProfileId}"

/-- `create_authorization` once the principal is found. -/
def authorize (ctx : SessionContext) (tables : AdminTables) (payload : AuthorizationCreate)
    (row : Nat → Nat → Authorization) : AdminScript :=
  sessionGet tables.deviceGroups DeviceGroup.id payload.deviceGroupId
    (refuse 400 (some "unknown_device_group_id")) fun group =>
      sessionGet tables.privilegeProfiles PrivilegeProfile.id payload.privilegeProfileId
        (refuse 400 (some "unknown_privilege_profile_id")) fun profile =>
          flushThenAudit (.insertAuthorization (row group.id profile.id))
            "authorization_already_exists"
            (fun rowId => appendCrud ctx .authorizationCreated "authorization" rowId
              (some (authorizationSummary (row group.id profile.id)))) 201

/-- `create_authorization`. -/
def createAuthorizationHandler (ctx : SessionContext) (payload : AuthorizationCreate) :
    AdminScript :=
  .query fun tables _ =>
    match payload.principal with
    | .user userId =>
      sessionGet tables.identity.users User.id userId (refuse 400 (some "unknown_user_id"))
        fun user => authorize ctx tables payload fun groupId profileId =>
          ⟨0, some user.id, none, groupId, profileId, by simp⟩
    | .adGroup adGroupId =>
      sessionGet tables.identity.adGroups ADGroup.id adGroupId
        (refuse 400 (some "unknown_ad_group_id"))
        fun adGroup => authorize ctx tables payload fun groupId profileId =>
          ⟨0, none, some adGroup.id, groupId, profileId, by simp⟩

/-- `delete_authorization`. -/
def deleteAuthorizationHandler (ctx : SessionContext) (authzId : Int) : AdminScript :=
  .query fun tables _ =>
    sessionGet tables.authorizations Authorization.id authzId (refuse 404 none) fun row =>
      auditThenCommit (.deleteAuthorization row.id)
        (appendCrud ctx .authorizationDeleted "authorization" row.id
          (some (authorizationSummary row))) .raise 204

/-! ## Requests -/

/-- A request that changes one resource. The id of a path is any integer. -/
inductive AdminRequest where
  /-- `POST /devices`. -/
  | createDevice (payload : DeviceCreate)
  /-- `PATCH /devices/{device_id}`. -/
  | updateDevice (deviceId : Int) (payload : DeviceUpdate)
  /-- `DELETE /devices/{device_id}`. -/
  | deleteDevice (deviceId : Int)
  /-- `POST /devices/{device_id}/rotate-secret`. -/
  | rotateSecret (deviceId : Int) (payload : DeviceRotateSecret)
  /-- `POST /devices/{device_id}/retire-previous`, at a time. -/
  | retirePreviousSecret (deviceId : Int) (now : Nat)
  /-- `POST /device-groups`. -/
  | createDeviceGroup (payload : DeviceGroupCreate)
  /-- `PATCH /device-groups/{device_group_id}`. -/
  | updateDeviceGroup (deviceGroupId : Int) (payload : DeviceGroupUpdate)
  /-- `POST /privilege-profiles`. -/
  | createPrivilegeProfile (payload : PrivilegeProfileCreate)
  /-- `PATCH /privilege-profiles/{profile_id}`. -/
  | updatePrivilegeProfile (profileId : Int) (payload : PrivilegeProfileUpdate)
  /-- `DELETE /privilege-profiles/{profile_id}`. -/
  | deletePrivilegeProfile (profileId : Int)
  /-- `POST /authorizations`. -/
  | createAuthorization (payload : AuthorizationCreate)
  /-- `DELETE /authorizations/{authz_id}`. -/
  | deleteAuthorization (authzId : Int)

/-- The handler of a request. -/
def AdminRequest.handler (printable : Char → Bool) (ctx : SessionContext) :
    AdminRequest → AdminScript
  | .createDevice payload => createDeviceHandler ctx payload
  | .updateDevice deviceId payload => updateDeviceHandler printable ctx deviceId payload
  | .deleteDevice deviceId => deleteDeviceHandler ctx deviceId
  | .rotateSecret deviceId payload => rotateSecretHandler ctx deviceId payload
  | .retirePreviousSecret deviceId now => retirePreviousSecretHandler ctx deviceId now
  | .createDeviceGroup payload => createDeviceGroupHandler ctx payload
  | .updateDeviceGroup deviceGroupId payload =>
    updateDeviceGroupHandler printable ctx deviceGroupId payload
  | .createPrivilegeProfile payload => createPrivilegeProfileHandler ctx payload
  | .updatePrivilegeProfile profileId payload =>
    updatePrivilegeProfileHandler printable ctx profileId payload
  | .deletePrivilegeProfile profileId => deletePrivilegeProfileHandler ctx profileId
  | .createAuthorization payload => createAuthorizationHandler ctx payload
  | .deleteAuthorization authzId => deleteAuthorizationHandler ctx authzId

end TacacsWeb.Model
