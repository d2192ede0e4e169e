import TacacsWeb.Model.AdminRequests
import TacacsWeb.Model.Json

/-!
# The audited operations

Everything that changes the database and records it in the audit log: the requests on resources,
the settings that are PUT, `POST /settings/ldap-sync/run` and the command `bootstrap-admin`. The
first two stage the audit row beside the change. The last two commit the change first, the sync
even in a session of its own, so they are scripts with more than one commit.
-/

namespace TacacsWeb.Model

open TacacsWeb.Library TacacsWeb.Library.Text TacacsWeb.Library.UnitOfWork

/-! ## Settings -/

/-- An audit row about settings: the caller's, without a target id. -/
def settingsAudit (ctx : SessionContext) (action : AuditAction) (targetType summary : String) :
    AuditLog where
  actorId := ctx.actorId
  actorUsernameSnapshot := ctx.username
  actorRole := ctx.role
  authMethod := ctx.authMethod
  action := action
  targetType := some targetType
  targetId := none
  summary := some summary
  clientIp := ctx.clientIp
  userAgent := ctx.userAgent

/-- The writes of a handler, each after a lookup of its key, which flushes the one before. -/
def writeEach (writes : List AdminChange) (last : AdminScript) : AdminScript :=
  writes.foldr (fun change next => .query fun _ _ => .stage change next) last

/-- A PUT of settings: admins only, the writes and the audit row in one commit. -/
def putSettings (ctx : SessionContext) (writes : List AdminChange) (audit : AuditLog) :
    AdminScript :=
  if ctx.role ≠ "admin" then refuse 403 (some "admin_required")
  else writeEach writes
    (.stage (.audit audit) (.commit .raise (.respond (.response 200))))

/-- `LdapSettingsUpdate`. -/
structure LdapSettingsUpdate where
  /-- The LDAPS endpoint, stripped. -/
  url : String
  /-- `max_length=512`. -/
  urlLength : url.length ≤ 512
  /-- `_check_url`. -/
  urlScheme : (startsWith "ldap://" url || startsWith "ldaps://" url) = true

/-- `put_ldap_settings`. -/
def putLdapSettings (ctx : SessionContext) (payload : LdapSettingsUpdate) : AdminScript :=
  putSettings ctx [.systemSetting "ldap.url" (some payload.url)]
    (settingsAudit ctx .settingLdapUrlUpdated "system_setting" payload.url)

/-- `WebSettingsUpdate`. -/
structure WebSettingsUpdate where
  /-- The address of the web interface, stripped. -/
  baseUrl : String
  /-- `max_length=512`. -/
  baseUrlLength : baseUrl.length ≤ 512
  /-- `_check_url`. -/
  baseUrlScheme : (startsWith "http://" baseUrl || startsWith "https://" baseUrl) = true

/-- `put_web_settings`. -/
def putWebSettings (ctx : SessionContext) (payload : WebSettingsUpdate) : AdminScript :=
  putSettings ctx [.systemSetting "web.base_url" (some payload.baseUrl)]
    (settingsAudit ctx .settingWebBaseUrlUpdated "system_setting" payload.baseUrl)

/-- `LdapSyncUpdate`. -/
structure LdapSyncUpdate where
  /-- The DN of the service account. -/
  bindDn : String
  /-- Its password; kept when absent or empty. -/
  bindPassword : Option String
  /-- Where to search, stripped. -/
  baseDns : List String
  /-- What to search for. -/
  userFilter : Option String
  /-- Seconds between two scheduled runs. -/
  cadenceSeconds : Int
  /-- Whether runs are scheduled. -/
  enabled : Bool
  /-- `min_length=1, max_length=1024`. -/
  bindDnLength : 1 ≤ bindDn.length ∧ bindDn.length ≤ 1024
  /-- `max_length=1024`. -/
  bindPasswordLength : ∀ value ∈ bindPassword, value.length ≤ 1024
  /-- `_check_base_dns`. -/
  baseDnsGiven : baseDns ≠ []
  /-- `max_length=2048`. -/
  userFilterLength : ∀ value ∈ userFilter, value.length ≤ 2048
  /-- `ge=CADENCE_MIN_SECONDS`. -/
  cadenceMinimum : cadenceMinSeconds ≤ cadenceSeconds
  /-- The body is JSON, in which an `int` has at most 4300 digits. -/
  cadenceDigits : cadenceSeconds.natAbs.repr.length ≤ 4300

/-- `"true"` or `"false"`. -/
def settingBool (value : Bool) : String := if value then "true" else "false"

/-- A text that counts as absent when it is empty. -/
def orNone (text : String) : Option String := if text = "" then none else some text

/-- `update_config` of `settings_ldap_sync`, with `json.dumps` as a function. -/
def updateSyncConfig (dumps : Json → String) (ctx : SessionContext) (payload : LdapSyncUpdate) :
    AdminScript :=
  putSettings ctx
    ([.systemSetting "ldap.bind_dn" (some (strip payload.bindDn)),
      .systemSetting "ldap.base_dns"
        (some (dumps (.array (payload.baseDns.map fun dn => .string (.text dn))))),
      .systemSetting "ldap.user_filter" (orNone (strip (payload.userFilter.getD ""))),
      .systemSetting "ldap.sync_cadence_seconds" (some (toString payload.cadenceSeconds)),
      .systemSetting "ldap.sync_enabled" (some (settingBool payload.enabled))] ++
      (match payload.bindPassword.filter (· ≠ "") with
        | some password => [.systemSecret "ldap.bind_password" (some password)]
        | none => []))
    (settingsAudit ctx .ldapSyncConfigUpdated "ldap_sync"
      (s!"bind_dn={payload.bindDn}, base_dns={payload.baseDns.length}, " ++
        s!"cadence={payload.cadenceSeconds}s, enabled=" ++
        (if payload.enabled then "True" else "False")))

/-- `IdpMetadata`. -/
structure IdpMetadata where
  /-- The entity id. -/
  entityId : String
  /-- Where logins go. -/
  ssoUrl : String
  /-- How they go there. -/
  ssoBinding : String
  /-- The signing certificate. -/
  x509Cert : String
deriving DecidableEq

/-- `import_idp_metadata`, with `parse_idp_metadata` as a function that fails with a text. -/
def importIdpMetadata (parseIdpMetadata : String → Except String IdpMetadata)
    (ctx : SessionContext) (xml : String) : AdminScript :=
  if ctx.role ≠ "admin" then refuse 403 (some "admin_required")
  else
    match parseIdpMetadata xml with
    | .error text => refuse 400 (some text)
    | .ok idp =>
      putSettings ctx
        [.systemSetting "saml.idp_entity_id" (some idp.entityId),
          .systemSetting "saml.idp_sso_url" (some idp.ssoUrl),
          .systemSetting "saml.idp_sso_binding" (some idp.ssoBinding),
          .systemSetting "saml.idp_x509_cert" (some idp.x509Cert),
          .systemSetting "saml.idp_metadata_xml" (some xml)]
        (settingsAudit ctx .samlIdpMetadataImported "saml.idp" idp.entityId)

/-- `RoleMapping`. -/
structure RoleMapping where
  /-- The AD group. -/
  adGroup : String
  /-- The role its members get. -/
  role : String
  /-- `min_length=1, max_length=512`. -/
  adGroupLength : 1 ≤ adGroup.length ∧ adGroup.length ≤ 512
  /-- `Literal["admin", "operator", "viewer"]`. -/
  roleKnown : role ∈ ["admin", "operator", "viewer"]

/-- `MappingUpdate`. -/
structure MappingUpdate where
  /-- The attribute with the groups, stripped. -/
  groupAttribute : String
  /-- The roles of the groups. -/
  roleMappings : List RoleMapping
  /-- `max_length=256`. -/
  groupAttributeLength : groupAttribute.length ≤ 256
  /-- `_check_attr`. -/
  groupAttributeGiven : groupAttribute ≠ ""

/-- `update_mapping`, with `json.dumps` as a function. -/
def updateMapping (dumps : Json → String) (ctx : SessionContext) (payload : MappingUpdate) :
    AdminScript :=
  putSettings ctx
    [.systemSetting "saml.group_attribute" (some payload.groupAttribute),
      .systemSetting "saml.role_mappings"
        (some (dumps (.array (payload.roleMappings.map fun mapping =>
          .object [(.text "ad_group", .string (.text mapping.adGroup)),
            (.text "role", .string (.text mapping.role))]))))]
    (settingsAudit ctx .samlMappingUpdated "saml.mapping"
      s!"{payload.roleMappings.length} mappings, attr={payload.groupAttribute}")

/-- `SyslogUpdate`. -/
structure SyslogUpdate where
  /-- Whether records are forwarded. -/
  enabled : Bool
  /-- The receiver. -/
  host : String
  /-- Its port. -/
  port : Nat
  /-- The transport. -/
  protocol : String
  /-- The syslog facility. -/
  facility : Nat
  /-- The name of the sender. -/
  appName : String
  /-- The host name of the sender. -/
  hostname : String
  /-- Whether the certificate of the receiver is checked. -/
  tlsVerify : Bool
  /-- The name the certificate must have. -/
  tlsServerName : Option String
  /-- The CA; kept when absent, deleted when empty. -/
  tlsCaPem : Option String
  /-- The client certificate; kept when absent, deleted when empty. -/
  tlsClientCertPem : Option String
  /-- The client key; kept when absent, deleted when empty. -/
  tlsClientKeyPem : Option String
  /-- `min_length=1, max_length=255`. -/
  hostLength : 1 ≤ host.length ∧ host.length ≤ 255
  /-- `ge=1, le=65535`. -/
  portRange : 1 ≤ port ∧ port ≤ 65535
  /-- `Literal["udp", "tcp", "tls"]`. -/
  protocolKnown : protocol ∈ ["udp", "tcp", "tls"]
  /-- `ge=0, le=23`. -/
  facilityRange : facility ≤ 23
  /-- `min_length=1, max_length=48`. -/
  appNameLength : 1 ≤ appName.length ∧ appName.length ≤ 48
  /-- `min_length=1, max_length=255`. -/
  hostnameLength : 1 ≤ hostname.length ∧ hostname.length ≤ 255
  /-- `max_length=255`. -/
  tlsServerNameLength : ∀ value ∈ tlsServerName, value.length ≤ 255

/-- A secret of `update_config`: left alone when absent. -/
def secretWrite (key : String) (given : Option String) : List AdminChange :=
  match given with
  | none => []
  | some value => [.systemSecret key (orNone value)]

/-- `update_config` of `settings_syslog`, with `json.dumps` as a function. -/
def updateSyslogConfig (dumps : Json → String) (ctx : SessionContext) (payload : SyslogUpdate) :
    AdminScript :=
  putSettings ctx
    ([.systemSetting "syslog.enabled" (some (settingBool payload.enabled)),
      .systemSetting "syslog.host" (some (strip payload.host)),
      .systemSetting "syslog.port" (some (toString payload.port)),
      .systemSetting "syslog.protocol" (some payload.protocol),
      .systemSetting "syslog.facility" (some (toString payload.facility)),
      .systemSetting "syslog.app_name" (some (strip payload.appName)),
      .systemSetting "syslog.hostname" (some (strip payload.hostname)),
      .systemSetting "syslog.tls_verify" (some (settingBool payload.tlsVerify)),
      .systemSetting "syslog.tls_server_name" (payload.tlsServerName.filter (· ≠ ""))] ++
      secretWrite "syslog.tls_ca_pem" payload.tlsCaPem ++
      secretWrite "syslog.tls_client_cert_pem" payload.tlsClientCertPem ++
      secretWrite "syslog.tls_client_key_pem" payload.tlsClientKeyPem)
    (settingsAudit ctx .syslogConfigUpdated "syslog"
      (dumps (.object [(.text "enabled", .bool payload.enabled),
        (.text "host", .string (.text payload.host)),
        (.text "port", .number (toString payload.port)),
        (.text "protocol", .string (.text payload.protocol))])))

/-- The settings that are PUT. -/
inductive SettingsPut where
  /-- `PUT /settings/ldap`. -/
  | ldap (payload : LdapSettingsUpdate)
  /-- `PUT /settings/web`. -/
  | web (payload : WebSettingsUpdate)
  /-- `PUT /settings/ldap-sync`. -/
  | ldapSync (payload : LdapSyncUpdate)
  /-- `PUT /settings/saml/idp-metadata`. -/
  | samlIdpMetadata (xml : String)
  /-- `PUT /settings/saml/mapping`. -/
  | samlMapping (payload : MappingUpdate)
  /-- `PUT /settings/syslog`. -/
  | syslog (payload : SyslogUpdate)

/-! ## The manual sync run -/

/-- What of the tables a sync run reads and writes. -/
def AdminTables.syncStore (tables : AdminTables) : SyncStore where
  identity := tables.identity
  systemSettings := tables.systemSettings
  systemSecrets := tables.systemSecrets
  lastSyncResult := tables.lastSyncResult
  auditLog := tables.auditLog

/-- `run_now`. The run has a session of its own, in which `run_sync` commits the identity tables and
`_run_sync_in_thread` the summary; the session of the request opens its transaction with the audit
row. So at no time are there two open transactions, and one session stands for both. -/
def runNowScript (host : SyncHost) (ctx : SessionContext) (times : RunTimes) : AdminScript :=
  if ctx.role ≠ "admin" then refuse 403 (some "admin_required")
  else .query fun tables _ =>
    match runSyncInThread host tables.syncStore times with
    | .error (.syncRunError message) =>
      .rollback (.stage (.audit (runAudit ctx .ldapSyncRunFailed message))
        (.commit .raise (refuse 400 (some message))))
    | .error _ => .raise
    | .ok (after, summary) =>
      .stage (.identity after.identity) (.commit .raise
        (.query fun _ _ => .stage (.lastSyncResult summary) (.commit .raise
          (.stage (.audit (runAudit ctx .ldapSyncRunSucceeded (runSummaryText host.took summary)))
            (.commit .raise (.respond (.response 200)))))))

/-! ## The command -/

/-- The audit row of the command. -/
def cliAuditRow (action : AuditAction) (username summary : String) : AuditLog where
  actorId := some 1
  actorUsernameSnapshot := username
  actorRole := "admin"
  authMethod := "local"
  action := action
  targetType := some "local_admin"
  targetId := some 1
  summary := some summary
  clientIp := none
  userAgent := some "cli"

/-- `_audit`, and the end of the command. -/
def cliAudit (action : AuditAction) (username summary : String) : AdminScript :=
  .stage (.audit (cliAuditRow action username summary)) (.commit .raise (.respond (.exit 0)))

/-- `_bootstrap_admin`, with `hash_password` as a function. -/
def bootstrapAdmin (hashPassword : String → String) (username password : String)
    (resetPassword : Bool) : AdminScript :=
  .query fun tables _ =>
    match tables.localAdmin with
    | none =>
      .stage (.localAdmin username (hashPassword password) none none)
        (.commit .raise (cliAudit .localAdminBootstrapped username "initial setup"))
    | some existing =>
      if !resetPassword then .respond (.exit 1)
      else
        .stage (.localAdmin username (hashPassword password) existing.allowedSourceCidr
            existing.lastLoginAt)
          (.commit .raise (cliAudit .localAdminPasswordReset username "password reset via CLI"))

/-! ## Operations -/

/-- What the operations depend on besides the database. -/
structure AdminHost where
  /-- Whether `repr` prints a character as it is. -/
  printable : Char → Bool
  /-- `json.dumps`. -/
  dumps : Json → String
  /-- `parse_idp_metadata`. -/
  parseIdpMetadata : String → Except String IdpMetadata
  /-- What a sync run depends on. -/
  sync : SyncHost
  /-- `hash_password`. -/
  hashPassword : String → String

/-- An audited operation. -/
inductive AuditedOperation where
  /-- A request that changes one resource. -/
  | request (ctx : SessionContext) (request : AdminRequest)
  /-- `DELETE /device-groups/{device_group_id}`, which takes the authorizations along. -/
  | deleteDeviceGroup (ctx : SessionContext) (deviceGroupId : Int)
  /-- A PUT of settings. -/
  | put (ctx : SessionContext) (settings : SettingsPut)
  /-- `POST /settings/ldap-sync/run`. -/
  | runNow (ctx : SessionContext) (times : RunTimes)
  /-- `tacacs-web bootstrap-admin`. -/
  | bootstrapAdmin (username password : String) (resetPassword : Bool)

/-- The handler of a PUT. -/
def SettingsPut.script (host : AdminHost) (ctx : SessionContext) : SettingsPut → AdminScript
  | .ldap payload => putLdapSettings ctx payload
  | .web payload => putWebSettings ctx payload
  | .ldapSync payload => updateSyncConfig host.dumps ctx payload
  | .samlIdpMetadata xml => importIdpMetadata host.parseIdpMetadata ctx xml
  | .samlMapping payload => updateMapping host.dumps ctx payload
  | .syslog payload => updateSyslogConfig host.dumps ctx payload

/-- The script of an operation. -/
def AuditedOperation.script (host : AdminHost) : AuditedOperation → AdminScript
  | .request ctx asked => asked.handler host.printable ctx
  | .deleteDeviceGroup ctx deviceGroupId => deleteDeviceGroupHandler ctx deviceGroupId
  | .put ctx settings => settings.script host ctx
  | .runNow ctx times => runNowScript host.sync ctx times
  | .bootstrapAdmin username password resetPassword =>
    TacacsWeb.Model.bootstrapAdmin host.hashPassword username password resetPassword

end TacacsWeb.Model
