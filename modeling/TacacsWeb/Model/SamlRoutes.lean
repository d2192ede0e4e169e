import TacacsWeb.Library.Dict
import TacacsWeb.Model.InternalMavis
import TacacsWeb.Model.LocalLogin

/-!
# The SAML login

`saml_acs` of `app.api.saml_routes` with the configuration it loads. What `process_response` of
python3-saml makes of a form at some time is a parameter. The handlers keep nothing between two
requests but the rows that they commit.
-/

namespace TacacsWeb.Model

open TacacsWeb.Library TacacsWeb.Library.Text

/-- The roles of `RoleMapping`. -/
inductive Role where
  /-- May change everything. -/
  | admin
  /-- May change some things. -/
  | operator
  /-- May look. -/
  | viewer
deriving DecidableEq

/-- The stored text of a role. -/
def Role.code : Role → String
  | admin => "admin"
  | operator => "operator"
  | viewer => "viewer"

/-- `SamlConfig`. -/
structure SamlConfig where
  /-- The URL of the web interface, without slashes at its end. -/
  baseUrl : String
  /-- The entity id of the identity provider. -/
  idpEntityId : String
  /-- Its single sign-on URL. -/
  idpSsoUrl : String
  /-- The binding of that URL. -/
  idpSsoBinding : String
  /-- Its certificate. -/
  idpX509Cert : String
  /-- Our certificate. -/
  spCertificatePem : String
  /-- Our private key. -/
  spPrivateKeyPem : String
  /-- The attribute that carries groups. -/
  groupAttribute : String
  /-- The role of each AD group, in the order of the settings page. -/
  roleMappings : List (String × Role)

/-- What the configuration is loaded from. -/
structure SamlSettings where
  /-- `system_setting`. -/
  systemSettings : Dict String String
  /-- `system_secret`. -/
  systemSecrets : Dict String String
  /-- `settings.base_url`. -/
  baseUrl : String
  /-- What `json.loads` and the filter after it make of stored role mappings. -/
  decodeMappings : String → List (String × Role)

/-- A stored text that is set and not empty. -/
def nonempty (value : Option String) : Option String := value.filter fun text => text ≠ ""

/-- `load_saml_config`: the message of `SamlNotConfigured` where it raises. -/
def loadSamlConfig (stored : SamlSettings) : Except String SamlConfig :=
  let setting := fun key => nonempty (stored.systemSettings.get? key)
  let secret := fun key => nonempty (stored.systemSecrets.get? key)
  let baseUrl := (setting "web.base_url").getD stored.baseUrl
  if baseUrl = "" then .error "web.base_url is not set"
  else match setting "saml.idp_entity_id", setting "saml.idp_sso_url",
      setting "saml.idp_x509_cert" with
    | some idpEntityId, some idpSsoUrl, some idpX509Cert =>
      match secret "saml.sp_certificate_pem", secret "saml.sp_private_key_pem" with
      | some spCertificatePem, some spPrivateKeyPem =>
        .ok {
          baseUrl := String.ofList (dropEndWhile (· = '/') baseUrl.toList)
          idpEntityId := idpEntityId
          idpSsoUrl := idpSsoUrl
          idpSsoBinding := (setting "saml.idp_sso_binding").getD ""
          idpX509Cert := idpX509Cert
          spCertificatePem := spCertificatePem
          spPrivateKeyPem := spPrivateKeyPem
          groupAttribute := (setting "saml.group_attribute").getD "memberOf"
          roleMappings := stored.decodeMappings ((setting "saml.role_mappings").getD "[]") }
      | _, _ => .error "SP keypair has not been generated yet"
    | _, _, _ => .error "IdP metadata has not been imported yet"

/-- What `OneLogin_Saml2_Auth` answers after `process_response`. -/
structure SamlResult where
  /-- `get_errors()`. -/
  errors : List String
  /-- `is_authenticated()`. -/
  authenticated : Bool
  /-- `get_last_error_reason()`. -/
  lastErrorReason : Option String
  /-- `get_nameid()`. -/
  nameId : Option String
  /-- `get_last_assertion_id()`, which no handler reads. -/
  assertionId : Option String

/-- python3-saml with its settings. -/
structure SamlToolkit where
  /-- `process_response()` for a form at some time, none where it raises. -/
  processResponse : SamlConfig → List (String × String) → Nat → Option SamlResult

/-- `repr` of a list of texts. -/
def reprTexts (printable : Char → Bool) (texts : List String) : String :=
  let listed := [',', ' '].intercalate (texts.map fun text => (pyRepr printable text).toList)
  String.ofList ('[' :: listed ++ [']'])

/-- `repr` of a text or `None`. -/
def reprOption (printable : Char → Bool) : Option String → String
  | none => "None"
  | some text => pyRepr printable text

/-- `_resolve_role`. -/
def resolveRole (fold : CaseFolding) (groupValues : List String) :
    List (String × Role) → Option Role
  | [] => none
  | (adGroup, role) :: mappings =>
    let lowered := groupValues.map fold.python
    if fold.python adGroup ∈ lowered then some role
    else if lowered.any (startsWith ("cn=" ++ fold.python adGroup ++ ",")) then some role
    else resolveRole fold groupValues mappings

/-- `_synced_group_dns`. A NUL in the name makes the query fail. -/
def syncedGroupDns (fold : CaseFolding) (identity : IdentityTables) (samAccountName : String) :
    Except HttpError (Option (List String)) :=
  if textFits none (some samAccountName) then
    match findByUsername fold identity.users samAccountName with
    | .error _ => .error internalServerError
    | .ok none => .ok none
    | .ok (some user) =>
      if user.enabled then
        .ok (some ((identity.load user).groups.map ADGroup.distinguishedName))
      else .ok none
  else .error internalServerError

/-- What the SAML handlers run with. -/
structure SamlEnvironment where
  /-- python3-saml. -/
  toolkit : SamlToolkit
  /-- The stored configuration. -/
  settings : SamlSettings
  /-- The tables that the sync owns. -/
  identity : IdentityTables
  /-- The two lower-casing functions. -/
  fold : CaseFolding
  /-- The characters beyond ASCII that `str.isprintable` accepts. -/
  printable : Char → Bool
  /-- `settings.session_cookie_secure`. -/
  sessionCookieSecure : Bool

/-- A `POST /saml/acs`. -/
structure AcsRequest extends ClientRequest where
  /-- The posted form. -/
  postData : List (String × String)

/-- The audit row of a SAML login. -/
def samlAudit (request : AcsRequest) (username role : String) (action : AuditAction)
    (summary : String) : AuditLog where
  actorId := none
  actorUsernameSnapshot := username
  actorRole := role
  authMethod := LoginMethod.saml.code
  action := action
  targetType := none
  targetId := none
  summary := some summary
  clientIp := request.clientIp
  userAgent := request.userAgent

/-- `saml_acs`: the tables after the request, and the redirect with its cookie. -/
def samlAcs (env : SamlEnvironment) (tables : LoginTables) (now : Nat) (token : SessionToken)
    (request : AcsRequest) : LoginTables × Except HttpError (String × SetCookie) :=
  match loadSamlConfig env.settings with
  | .error message => (tables, .error ⟨409, some ("saml_not_configured: " ++ message)⟩)
  | .ok cfg =>
    match env.toolkit.processResponse cfg request.postData now with
    -- The exception of `process_response` reaches the framework.
    | none => (tables, .error internalServerError)
    | some result =>
      if result.errors ≠ [] ∨ result.authenticated = false then
        refuse (samlAudit request "<saml>" "unknown" .authLoginFailed
          ("errors=" ++ reprTexts env.printable result.errors ++ "; reason=" ++
            reprOption env.printable result.lastErrorReason)) ⟨401, some "saml_validation_failed"⟩
      else enrol cfg ((nonempty result.nameId).getD "<unknown>")
where
  /-- What follows for the name in a valid response. -/
  enrol (cfg : SamlConfig) (nameId : String) :
      LoginTables × Except HttpError (String × SetCookie) :=
    match syncedGroupDns env.fold env.identity nameId with
    | .error error => (tables, .error error)
    | .ok none =>
      refuse (samlAudit request nameId "unknown" .authLoginFailed
        "user_not_synced; groups=None") ⟨403, some "user_not_synced"⟩
    | .ok (some groupValues) =>
      let groups := reprTexts env.printable groupValues
      match resolveRole env.fold groupValues cfg.roleMappings with
      | none =>
        refuse (samlAudit request nameId "unknown" .authLoginFailed
          ("no_role_mapping; groups=" ++ groups)) ⟨403, some "no_role_mapping"⟩
      | some role =>
        let session := createSession now token nameId role.code .saml none request.clientIp
        match commitLogin tables (some session)
            (samlAudit request nameId role.code .authLoginSucceeded ("groups=" ++ groups)) with
        | .error error => (tables, .error error)
        | .ok after =>
          (after, .ok (cfg.baseUrl ++ "/", sessionCookie env.sessionCookieSecure session.token))
  /-- A refusal, whose audit row is committed before the answer. -/
  refuse (row : AuditLog) (answer : HttpError) :
      LoginTables × Except HttpError (String × SetCookie) :=
    match commitLogin tables none row with
    | .error error => (tables, .error error)
    | .ok after => (after, .error answer)

end TacacsWeb.Model
