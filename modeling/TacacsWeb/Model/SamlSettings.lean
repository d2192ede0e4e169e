import TacacsWeb.Library.Run
import TacacsWeb.Model.IdpMetadata
import TacacsWeb.Model.JsonText
import TacacsWeb.Model.SamlRoutes

/-!
# The settings of SAML logins

The requests that write them, `app.api.v1.settings_saml` and `PUT /settings/web`, and the three
places that read them: the `saml` step of `_build_status` in `app.api.v1.setup`, `get_saml_status`,
and `load_saml_config` with what becomes of stored role mappings. The keypair generator and the
parser of URLs and of XML are parameters.
-/

namespace TacacsWeb.Model

open TacacsWeb.Library TacacsWeb.Library.Text TacacsWeb.Library.UnitOfWork

/-! ## Stored role mappings -/

/-- What a `for` loop over a value sees, none where the value is not iterable. -/
def Json.iterated : Json → Option (List Json)
  | .array elements => some elements
  | .object members => some (members.map fun member => .string member.1)
  | .string value => some (value.codePoints.map fun codePoint => .string (.ofCodePoints [codePoint]))
  | _ => none

/-- The entries of stored role mappings: a text that is no JSON has none. -/
def mappingEntries (raw : String) : Option (List Json) :=
  match Json.loads raw with
  | none => some []
  | some decoded => decoded.iterated

/-- The roles that a mapping may name. -/
def mappingRoles : List String := ["admin", "operator", "viewer"]

/-- `RoleMapping.model_validate` of a dictionary with one of the roles. -/
def validateMapping (role : String) (members : List (PyString × Json)) : Option RoleMapping :=
  match Json.member "ad_group" members with
  | .string (.text adGroup) =>
    if sized : 1 ≤ adGroup.length ∧ adGroup.length ≤ 512 then
      if known : role ∈ ["admin", "operator", "viewer"] then
        some ⟨adGroup, role, sized, known⟩
      else none
    else none
  | _ => none

/-- One entry in `get_saml_status`: dropped, kept, or the reason for an exception. -/
def statusMapping : Json → Except Unit (Option RoleMapping)
  | .object members =>
    match Json.member "role" members with
    | .string (.text role) =>
      if role ∈ mappingRoles then
        match validateMapping role members with
        | none => .error ()
        | some mapping => .ok (some mapping)
      else .ok none
    -- A list or a dictionary cannot be looked up in a set.
    | role => if role.hashable then .ok none else .error ()
  | _ => .ok none

/-- One entry in `load_saml_config`: what it has under the two keys, if it has them. -/
def loadedMapping : Json → Option (Json × Json)
  | .object members =>
    if (members.any fun member => member.1 = .text "ad_group") &&
        members.any fun member => member.1 = .text "role" then
      some (Json.member "ad_group" members, Json.member "role" members)
    else none
  | _ => none

/-- A role by its text. -/
def Role.ofCode (code : String) : Option Role :=
  [Role.admin, .operator, .viewer].find? fun role => role.code = code

/-- A pair of `load_saml_config` as a mapping. -/
def roleOfPair : Json × Json → Option (String × Role)
  | (.string (.text adGroup), .string (.text role)) =>
    (Role.ofCode role).map fun role => (adGroup, role)
  | _ => none

/-- The mappings that `load_saml_config` goes on with. -/
def decodeMappings (raw : String) : List (String × Role) :=
  (((mappingEntries raw).getD []).filterMap loadedMapping).filterMap roleOfPair

/-! ## The three readers -/

/-- `SetupStep`. -/
structure SetupStep where
  /-- Which step it is. -/
  key : String
  /-- Whether it is done. -/
  done : Bool
  /-- Whether setup needs it. -/
  required : Bool
  /-- What is shown next to it. -/
  detail : Option String
deriving DecidableEq

/-- A text of `system_setting` that is set and not empty. -/
def AdminTables.setting (tables : AdminTables) (key : String) : Option String :=
  nonempty (tables.systemSettings.get? key)

/-- A text of `system_secret` that is set and not empty. -/
def AdminTables.secret (tables : AdminTables) (key : String) : Option String :=
  nonempty (tables.systemSecrets.get? key)

/-- The `saml` step of `_build_status`. -/
def samlSetupStep (tables : AdminTables) : SetupStep :=
  let samlReady := (tables.secret "saml.sp_certificate_pem").isSome &&
    (tables.secret "saml.sp_private_key_pem").isSome &&
    (tables.setting "saml.idp_entity_id").isSome && (tables.setting "saml.idp_sso_url").isSome
  { key := "saml"
    done := samlReady
    required := false
    detail := if samlReady then tables.setting "saml.idp_entity_id" else none }

/-- A text without the slashes at its end. -/
def withoutSlashes (text : String) : String :=
  String.ofList (dropEndWhile (· = '/') text.toList)

/-- `_resolve_base_url`, with `settings.base_url`. -/
def resolveBaseUrl (environment : String) (stored : Option String) : Option String :=
  orNone (withoutSlashes ((nonempty stored).getD environment))

/-- `sp_entity_id`. -/
def spEntityId (baseUrl : String) : String := withoutSlashes baseUrl ++ "/saml/metadata"

/-- `sp_acs_url`. -/
def spAcsUrl (baseUrl : String) : String := withoutSlashes baseUrl ++ "/saml/acs"

/-- `SamlStatusRead`. -/
structure SamlStatusRead where
  /-- Whether SAML logins are configured. -/
  configured : Bool
  /-- Our entity id. -/
  spEntityId : Option String
  /-- Where responses are posted. -/
  spAcsUrl : Option String
  /-- Whether there is a keypair. -/
  spHasKeypair : Bool
  /-- The entity id of the identity provider. -/
  idpEntityId : Option String
  /-- Where logins go. -/
  idpSsoUrl : Option String
  /-- Whether there is a certificate of the identity provider. -/
  idpCertPresent : Bool
  /-- The attribute with the groups. -/
  groupAttribute : String
  /-- The roles of the groups. -/
  roleMappings : List RoleMapping

/-- `get_saml_status`, none where it raises. -/
def getSamlStatus (environment : String) (tables : AdminTables) : Option SamlStatusRead :=
  let baseUrl := resolveBaseUrl environment (tables.systemSettings.get? "web.base_url")
  let keypair := (tables.secret "saml.sp_certificate_pem").isSome &&
    (tables.secret "saml.sp_private_key_pem").isSome
  match mappingEntries ((tables.setting "saml.role_mappings").getD "[]") with
  | none => none
  | some entries =>
    match entries.mapM statusMapping with
    | .error _ => none
    | .ok mappings => some {
        configured := baseUrl.isSome && keypair &&
          (tables.setting "saml.idp_entity_id").isSome &&
          (tables.setting "saml.idp_sso_url").isSome &&
          (tables.setting "saml.idp_x509_cert").isSome
        spEntityId := baseUrl.map Model.spEntityId
        spAcsUrl := baseUrl.map Model.spAcsUrl
        spHasKeypair := keypair
        idpEntityId := tables.systemSettings.get? "saml.idp_entity_id"
        idpSsoUrl := tables.systemSettings.get? "saml.idp_sso_url"
        idpCertPresent := (tables.setting "saml.idp_x509_cert").isSome
        groupAttribute := (tables.setting "saml.group_attribute").getD "memberOf"
        roleMappings := mappings.filterMap id }

/-- What `load_saml_config` raises. -/
inductive SamlLoadFault where
  /-- `SamlNotConfigured`, with its text. -/
  | notConfigured (text : String)
  /-- A `TypeError`: the stored role mappings cannot be iterated. -/
  | typeError
deriving DecidableEq

/-- `load_saml_config` over the stored texts. -/
def loadStoredSamlConfig (environment : String) (tables : AdminTables) :
    Except SamlLoadFault SamlConfig :=
  match loadSamlConfig ⟨tables.systemSettings, tables.systemSecrets, environment, decodeMappings⟩ with
  | .error text => .error (.notConfigured text)
  | .ok cfg =>
    match mappingEntries ((tables.setting "saml.role_mappings").getD "[]") with
    | none => .error .typeError
    | some _ => .ok cfg

/-! ## The requests -/

/-- `SpKeypairRegenerate`. -/
structure SpKeypairRegenerate where
  /-- The name in the certificate; that of the web interface when absent or empty. -/
  commonName : Option String
  /-- `max_length=253`. -/
  commonNameLength : ∀ value ∈ commonName, value.length ≤ 253

/-- What `regenerate_sp_keypair` calls. -/
structure KeypairTools where
  /-- `urlparse(url).hostname`, none where it raises. -/
  hostname : String → Option (Option String)
  /-- `generate_sp_keypair(common_name)`: the certificate and the key, none where it raises. -/
  generateSpKeypair : String → Option (String × String)

/-- A new keypair for a name. -/
def storeKeypair (tools : KeypairTools) (ctx : SessionContext) (commonName : String) :
    AdminScript :=
  match tools.generateSpKeypair commonName with
  | none => .raise
  | some (certPem, keyPem) =>
    putSettings ctx
      [.systemSecret "saml.sp_certificate_pem" (some certPem),
        .systemSecret "saml.sp_private_key_pem" (some keyPem)]
      (settingsAudit ctx .samlSpKeypairRegenerated "saml.sp" ("CN=" ++ commonName))

/-- `regenerate_sp_keypair`. -/
def regenerateSpKeypair (environment : String) (tools : KeypairTools) (ctx : SessionContext)
    (payload : SpKeypairRegenerate) : AdminScript :=
  if ctx.role ≠ "admin" then refuse 403 (some "admin_required")
  else match nonempty payload.commonName with
    | some commonName => storeKeypair tools ctx commonName
    | none =>
      .query fun tables _ =>
        match resolveBaseUrl environment (tables.systemSettings.get? "web.base_url") with
        | none => refuse 400 (some "common_name required (no base_url)")
        | some base =>
          match tools.hostname base with
          | none => .raise
          | some host => storeKeypair tools ctx ((nonempty host).getD "tacacs-web")

/-- A request that writes the settings of SAML logins. -/
inductive SamlRequest where
  /-- `PUT /settings/web`. -/
  | web (payload : WebSettingsUpdate)
  /-- `PUT /settings/saml/idp-metadata`. -/
  | idpMetadata (xml : String)
  /-- `PUT /settings/saml/mapping`. -/
  | mapping (payload : MappingUpdate)
  /-- `POST /settings/saml/sp-keypair`, with the tools as they answer this time. -/
  | spKeypair (payload : SpKeypairRegenerate) (tools : KeypairTools)

/-- What the requests depend on besides the database. -/
structure SamlSite where
  /-- `settings.base_url`. -/
  baseUrl : String
  /-- `ET.fromstring`. -/
  fromstring : String → Except XmlFault Element

/-- The handler of a request. -/
def SamlRequest.script (site : SamlSite) (ctx : SessionContext) : SamlRequest → AdminScript
  | .web payload => putWebSettings ctx payload
  | .idpMetadata xml => importIdpMetadataHandler site.fromstring ctx xml
  | .mapping payload => updateMapping Json.dumps ctx payload
  | .spKeypair payload tools => regenerateSpKeypair site.baseUrl tools ctx payload

/-- A request of a run: by whom, from which sequences, and how far the database lets it get. -/
structure SamlCall where
  /-- The caller. -/
  ctx : SessionContext
  /-- The request. -/
  request : SamlRequest
  /-- The sequences of the domain tables. -/
  sequences : AdminSequences
  /-- How its statements come out. -/
  plan : List Outcome

/-- What a request commits. -/
def samlSettingsStep (site : SamlSite) : Step AdminTables SamlCall := fun tables call =>
  some ((call.request.script site call.ctx).run adminEngine (.start tables call.sequences)
    call.plan).1.durable.tables

end TacacsWeb.Model
