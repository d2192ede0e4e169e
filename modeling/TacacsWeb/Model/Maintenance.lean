import TacacsWeb.Model.SamlSettings
import TacacsWeb.Model.SyslogLines
import TacacsWeb.Model.TlsVolume

/-!
# Requests of maintenance

The requests of admins that change no resource and are no PUT of settings: what the handlers of
`app.api.v1.settings_tls` do with the database once the certificate is written, the two connection
tests of `settings_ldap_sync` and `settings_syslog`, and the setup wizard of `app.api.v1.setup`.
-/

namespace TacacsWeb.Model

open TacacsWeb.Library TacacsWeb.Library.Text TacacsWeb.Library.UnitOfWork

/-! ## The certificate -/

/-- The action that a request to replace the certificate records. -/
def TlsRequest.action {PrivateKey : Type} : TlsRequest PrivateKey → AuditAction
  | .upload _ => .tlsCertUploaded
  | .uploadPfx _ => .tlsPfxUploaded
  | .regenerateSelfSigned _ _ => .tlsCertRegenerated

/-- What the handler of a request to replace the certificate does with the database, by how its work
on the volume has ended. -/
def recordCertificate (ctx : SessionContext) (action : AuditAction) (ending : TlsEnding) :
    AdminScript :=
  if ctx.role ≠ "admin" then refuse 403 (some "admin_required")
  else match ending with
    | .refused error => .respond (.refusal error)
    -- A process that has stopped does no more with the database than a handler that raises.
    | .raised | .stopped => .raise
    | .written source summary =>
      putSettings ctx [.systemSetting "tls.source" (some source)]
        (settingsAudit ctx action "tls_cert" summary)

/-! ## The connection tests -/

/-- `TestConnectionBody`. -/
structure TestConnectionBody where
  /-- The server; the stored one when absent or empty. -/
  url : Option String
  /-- The DN of the service account; the stored one when absent or empty. -/
  bindDn : Option String
  /-- Its password; the stored one when absent or blank. -/
  bindPassword : Option String
  /-- `max_length=512`. -/
  urlLength : ∀ value ∈ url, value.length ≤ 512
  /-- `max_length=1024`. -/
  bindDnLength : ∀ value ∈ bindDn, value.length ≤ 1024
  /-- `max_length=1024`. -/
  bindPasswordLength : ∀ value ∈ bindPassword, value.length ≤ 1024

/-- `test_connection`. With `auto_bind` a connection that is returned is bound. -/
def testConnection (fold : CaseFolding) (client : LdapClient) (url bindDn bindPassword : String) :
    Except SyncFailure Unit :=
  let endpoint : LdapEndpoint := ⟨url, startsWith "ldaps://" (fold.python url), 5⟩
  match client.construct endpoint with
  | some raised => .error (.ldapRaised raised)
  | none =>
    match client.connect endpoint bindDn bindPassword with
    | some raised => .error (raised.wrap "LDAP bind failed: ")
    | none =>
      match client.unbind with
      | some raised => .error (.ldapRaised raised)
      | none => .ok ()

/-- `_load_status_sync` raises, with `str.isdigit` on one character: the stored base DNs are JSON
that cannot be iterated, or the stored cadence has digits that `int` does not take. -/
def statusRaises (isDigit : Char → Bool) (loads : String → Option Json) (tables : AdminTables) :
    Bool :=
  let decoded := loads ((tables.setting "ldap.base_dns").getD "[]")
  (decoded.any fun value => (iterStrings value).isNone) ||
    (tables.setting "ldap.sync_cadence_seconds").any fun cadence =>
      cadence.toList.all isDigit && (parseInt cadence).isNone

/-- `test_endpoint` of `settings_ldap_sync`. -/
def testLdapSync (isDigit : Char → Bool) (host : SyncHost) (ctx : SessionContext)
    (payload : TestConnectionBody) : AdminScript :=
  if ctx.role ≠ "admin" then refuse 403 (some "admin_required")
  else .query fun tables _ =>
    if statusRaises isDigit host.loads tables then .raise
    else
      let url := nonempty payload.url <|> tables.setting "ldap.url"
      let bindDn := nonempty payload.bindDn <|> tables.setting "ldap.bind_dn"
      let given := payload.bindPassword.filter fun password => strip password ≠ ""
      let bindPassword := given <|> tables.secret "ldap.bind_password"
      match url, bindDn, bindPassword with
      | some url, some bindDn, some bindPassword =>
        match testConnection host.fold host.client url bindDn bindPassword with
        | .error (.syncRunError message) =>
          .stage (.audit (settingsAudit ctx .ldapSyncTestFailed "ldap_sync" message))
            (.commit .raise (refuse 400 (some message)))
        | .error _ => .raise
        | .ok () =>
          .stage (.audit (settingsAudit ctx .ldapSyncTestSucceeded "ldap_sync"
              ("bind_dn=" ++ bindDn)))
            (.commit .raise (.respond (.response 200)))
      | _, _, _ => refuse 400 (some "url, bind_dn, and bind_password required")

/-- The line of `send_test_message`. -/
def testMessage (now : DateTime) (cfg : SyslogConfig) : String :=
  syslogHeader (cfg.facility * 8 + severityInfo) now cfg "test" ++
    " [acct@tacacs-web test=\"connectivity\"] tacacs-web syslog reachability test"

/-- What the test of the forwarder meets. -/
structure SyslogSite where
  /-- The clock. -/
  now : DateTime
  /-- `_send_lines`: the class and the text of what it raises. -/
  raised : SyslogConfig → List String → Option String

/-- `test_endpoint` of `settings_syslog`. -/
def testSyslog (fold : CaseFolding) (site : SyslogSite) (ctx : SessionContext) : AdminScript :=
  if ctx.role ≠ "admin" then refuse 403 (some "admin_required")
  else .query fun tables _ =>
    let cfg := loadSyslogConfig fold tables.systemSettings tables.systemSecrets
    if cfg.host = "" then refuse 400 (some "syslog.host is not configured")
    else match site.raised cfg [testMessage site.now cfg] with
      | some error =>
        .stage (.audit (settingsAudit ctx .syslogTestFailed "syslog" error))
          (.commit .raise (refuse 400 (some error)))
      | none =>
        .stage (.audit (settingsAudit ctx .syslogTestSucceeded "syslog"
            s!"{cfg.protocol}://{cfg.host}:{cfg.port}"))
          (.commit .raise (.respond (.response 200)))

/-! ## The setup wizard -/

/-- A step with the number of rows of a table. -/
def countStep (key : String) (required : Bool) (count : Nat) : SetupStep where
  key := key
  done := count > 0
  required := required
  detail := some s!"{count} configured"

/-- A step with the text of a setting. -/
def settingStep (key : String) (value : Option String) : SetupStep where
  key := key
  done := (nonempty value).isSome
  required := true
  detail := value

/-- The steps of `_build_status`, with whether `server.crt` exists. -/
def setupSteps (fold : CaseFolding) (certPresent : Bool) (tables : AdminTables) : List SetupStep :=
  let switchedOn := fun key =>
    fold.python ((tables.setting key).getD "false") = "true"
  let bindReady := (tables.setting "ldap.bind_dn").isSome && (tables.setting "ldap.base_dns").isSome
  let tlsSource := if certPresent then tables.setting "tls.source" else none
  [{ key := "local_admin"
     done := tables.localAdmin.isSome
     required := true
     detail :=
      if tables.localAdmin.isSome then some "Break-glass admin set via `tacacs-web bootstrap-admin`"
      else some "Run `tacacs-web bootstrap-admin` on the host" },
    settingStep "web_base_url" (tables.systemSettings.get? "web.base_url"),
    { key := "tls"
      done := certPresent
      required := true
      detail := tlsSource <|> if certPresent then some "bootstrap" else none },
    settingStep "ldap_url" (tables.systemSettings.get? "ldap.url"),
    { key := "ldap_sync"
      done := bindReady
      required := false
      detail :=
        if bindReady then
          if switchedOn "ldap.sync_enabled" then some "AD-Sync scheduled"
          else some "Bind DN + Base DN stored"
        else none },
    samlSetupStep tables,
    countStep "first_device_group" true tables.deviceGroups.length,
    countStep "first_privilege_profile" true tables.privilegeProfiles.length,
    countStep "first_device" false tables.devices.length,
    countStep "first_authorization" false tables.authorizations.length,
    { key := "syslog_forwarder"
      done := (tables.setting "syslog.host").isSome
      required := false
      detail :=
        if (tables.setting "syslog.host").isSome then
          if switchedOn "syslog.enabled" then some "forwarding enabled"
          else some "host set, disabled"
        else none }]

/-- `can_complete` of `_build_status`. -/
def canComplete (fold : CaseFolding) (certPresent : Bool) (tables : AdminTables) : Bool :=
  (setupSteps fold certPresent tables).all fun step => !step.required || step.done

/-- Who is noted as having closed the wizard. -/
def wizardMarker (ctx : SessionContext) : String :=
  if ctx.username = "" then "admin" else ctx.username

/-- `complete_wizard`. -/
def completeWizard (fold : CaseFolding) (certPresent : Bool) (ctx : SessionContext) : AdminScript :=
  if ctx.role ≠ "admin" then refuse 403 (some "admin_required")
  else .query fun tables _ =>
    if !canComplete fold certPresent tables then refuse 400 (some "required_steps_incomplete")
    else
      putSettings ctx [.systemSetting "setup.wizard_completed" (some (wizardMarker ctx))]
        (settingsAudit ctx .setupWizardCompleted "setup" (wizardMarker ctx))

/-- `reopen_wizard`. -/
def reopenWizard (ctx : SessionContext) : AdminScript :=
  if ctx.role ≠ "admin" then refuse 403 (some "admin_required")
  else .query fun tables _ =>
    match tables.systemSettings.get? "setup.wizard_completed" with
    | none => .respond (.response 200)
    | some _ =>
      putSettings ctx [.systemSetting "setup.wizard_completed" none]
        (settingsAudit ctx .setupWizardReopened "setup" (wizardMarker ctx))

/-! ## All of them -/

/-- A request of maintenance. -/
inductive MaintenanceRequest where
  /-- A request of `settings_tls`, whatever key it draws, with how its work on the volume ends. -/
  | certificate (request : TlsRequest Unit) (ending : TlsEnding)
  /-- `POST /settings/ldap-sync/test`. -/
  | testLdapSync (payload : TestConnectionBody) (isDigit : Char → Bool)
  /-- `POST /settings/syslog/test`. -/
  | testSyslog (site : SyslogSite)
  /-- `POST /setup/complete`, with whether `server.crt` exists. -/
  | completeWizard (certPresent : Bool)
  /-- `POST /setup/reopen`. -/
  | reopenWizard

/-- The handler of a request. -/
def MaintenanceRequest.script (host : SyncHost) (ctx : SessionContext) :
    MaintenanceRequest → AdminScript
  | .certificate request ending => recordCertificate ctx request.action ending
  | .testLdapSync payload isDigit => Model.testLdapSync isDigit host ctx payload
  | .testSyslog site => Model.testSyslog host.fold site ctx
  | .completeWizard certPresent => Model.completeWizard host.fold certPresent ctx
  | .reopenWizard => Model.reopenWizard ctx

end TacacsWeb.Model
