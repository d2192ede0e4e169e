import TacacsWeb.Library.Run
import TacacsWeb.Model.Accounting
import TacacsWeb.Model.Maintenance
import TacacsWeb.Model.MavisRequests
import TacacsWeb.Model.NasConfig

/-!
# The application

The routers and the background loops that `app.main` puts together, over the one database behind
them. A step is a login, the session check of a request, the handler of a request that has passed
it, a logout, a MAVIS request, a tick of the scheduler, a transaction of the ingestor or of the
forwarder, or a command. A request whose session has been found waits among the callers until its
handler runs, whatever becomes of the session in between; the handlers themselves are taken as
atomic, so no other step comes between what one reads and what it commits. Requests that only read
change nothing and are left out. What surrounds the application may differ from step to step.
-/

namespace TacacsWeb.Model

open TacacsWeb.Library TacacsWeb.Library.UnitOfWork

/-! ## Further tasks of a caller -/

/-- `POST /admin/regenerate-nas-config`, under `TACACS_SHARED_SECRET`, the path of the file and
whether it can be written. -/
def regenerateHandler (sharedSecret hostsFile : String) (writable : Bool) (ctx : SessionContext) :
    AdminScript :=
  if ctx.role ≠ "admin" then refuse 403 (some "admin_required")
  else .query fun tables _ =>
    if !writable then refuse 500 (some "could not write to shared tac_plus-ng volume")
    else
      let content := hostsContent sharedSecret tables.devices
      .stage (.audit (settingsAudit ctx .nasConfigRegenerated "nas_config"
          s!"wrote {content.length} bytes to {hostsFile}"))
        (.commit .raise (.respond (.response 200)))

/-- What a handler or the command does in a session of its own. -/
inductive ApplicationTask where
  /-- An audited operation. -/
  | audited (operation : AuditedOperation)
  /-- `POST /settings/saml/sp-keypair`. -/
  | spKeypair (ctx : SessionContext) (payload : SpKeypairRegenerate) (tools : KeypairTools)
  /-- `POST /admin/regenerate-nas-config`. -/
  | regenerate (ctx : SessionContext) (writable : Bool)
  /-- A request of maintenance. -/
  | maintain (ctx : SessionContext) (request : MaintenanceRequest)

/-- The caller of an audited operation, none at the command line. -/
def AuditedOperation.caller : AuditedOperation → Option SessionContext
  | .request ctx _ | .deleteDeviceGroup ctx _ | .put ctx _ | .runNow ctx _ => some ctx
  | .bootstrapAdmin _ _ _ => none

/-- The caller of a task. -/
def ApplicationTask.caller : ApplicationTask → Option SessionContext
  | .audited operation => operation.caller
  | .spKeypair ctx _ _ | .regenerate ctx _ | .maintain ctx _ => some ctx

/-! ## Surroundings -/

/-- What surrounds the application during a step. -/
structure ApplicationHost (fold : CaseFolding) where
  /-- What the audited operations depend on. -/
  admin : AdminHost
  /-- The lower-casing functions do not change. -/
  folding : admin.sync.fold = fold
  /-- The directory server that MAVIS requests bind to. -/
  server : LdapServer
  /-- python3-saml. -/
  toolkit : SamlToolkit
  /-- The verification of a hash by argon2. -/
  verify : String → String → Bool
  /-- `settings.base_url`. -/
  baseUrl : String
  /-- `settings.session_cookie_secure`. -/
  sessionCookieSecure : Bool
  /-- `TACACS_SHARED_SECRET`. -/
  sharedSecret : String
  /-- `HOSTS_FILE`. -/
  hostsFile : String

/-- The script of a task. -/
def ApplicationTask.script {fold : CaseFolding} (host : ApplicationHost fold) :
    ApplicationTask → AdminScript
  | .audited operation => operation.script host.admin
  | .spKeypair ctx payload tools => regenerateSpKeypair host.baseUrl tools ctx payload
  | .regenerate ctx writable => regenerateHandler host.sharedSecret host.hostsFile writable ctx
  | .maintain ctx request => request.script host.admin.sync ctx

/-! ## The background loops -/

/-- A row of `system_setting` in which a background loop notes how far it is. -/
inductive LoopSetting where
  /-- Where the ingestor is in the accounting log. -/
  | accountingLogOffset
  /-- The last accounting record that the forwarder has sent. -/
  | syslogLastForwardedId
  /-- The last audit row that it has sent. -/
  | syslogLastAuditId
  /-- Its last error. -/
  | syslogLastError
  /-- The time of that. -/
  | syslogLastErrorAt
deriving DecidableEq

/-- The key of the row. -/
def LoopSetting.key : LoopSetting → String
  | accountingLogOffset => "accounting.log_offset"
  | syslogLastForwardedId => "syslog.last_forwarded_id"
  | syslogLastAuditId => "syslog.last_audit_id"
  | syslogLastError => "syslog.last_error"
  | syslogLastErrorAt => "syslog.last_error_at"

/-- `_write_setting` of `app.syslog.forwarder` and `_save_offset`: a text, or none to delete the
row. -/
def writeLoopSetting (settings : Dict String String) (write : LoopSetting × Option String) :
    Dict String String :=
  writeKey settings write.1.key write.2

/-! ## The state -/

/-- The database, and the requests whose handlers are yet to run. -/
structure Application where
  /-- The tables but for the sessions. -/
  tables : AdminTables
  /-- The sequences. -/
  sequences : AdminSequences
  /-- The rows of `system_setting` that the background loops write. -/
  loopSettings : Dict String String
  /-- `web_session`. -/
  sessions : List WebSession
  /-- The callers whose session has been found and whose handler has not run. -/
  callers : List SessionContext

namespace Application

/-- The tables of a migrated database that nobody has used. -/
def emptyTables : AdminTables where
  identity := .empty
  deviceGroups := []
  devices := []
  privilegeProfiles := []
  authorizations := []
  accountingDeviceIds := []
  systemSettings := ∅
  systemSecrets := ∅
  lastSyncResult := none
  localAdmin := none
  auditLog := []

/-- A new installation. -/
def installed : Application := ⟨emptyTables, ⟨1, 1, 1, 1⟩, ∅, [], []⟩

/-- The tables as the login handlers see them. -/
def loginTables (app : Application) : LoginTables :=
  ⟨app.tables.localAdmin.toList, app.sessions, app.tables.auditLog⟩

/-- The database after a login handler. -/
def afterLogin (app : Application) (after : LoginTables) : Application :=
  { app with
    tables := { app.tables with
      localAdmin := after.localAdmins.head?
      auditLog := after.audit }
    sessions := after.sessions }

/-- What the SAML handlers run with. -/
def samlEnvironment {fold : CaseFolding} (app : Application) (host : ApplicationHost fold) :
    SamlEnvironment where
  toolkit := host.toolkit
  settings := ⟨app.tables.systemSettings, app.tables.systemSecrets, host.baseUrl, decodeMappings⟩
  identity := app.tables.identity
  fold := fold
  printable := host.admin.printable
  sessionCookieSecure := host.sessionCookieSecure

/-- The database after a script under a plan. -/
def perform {Answer : Type} (app : Application)
    (script : Script AdminTables AdminSequences AdminChange Answer) (plan : List Outcome) :
    Application :=
  let session := (script.run adminEngine (.start app.tables app.sequences) plan).1
  { app with tables := session.durable.tables, sequences := session.sequences }

/-- What of the tables a sync run writes. -/
def afterSync (app : Application) (store : SyncStore) : Application :=
  { app with tables := { app.tables with
      identity := store.identity
      lastSyncResult := store.lastSyncResult } }

end Application

/-! ## Steps -/

/-- What can happen. -/
inductive ApplicationEvent where
  /-- `POST /login/local`, with the token that its session would get. -/
  | loginLocal (now : Nat) (token : SessionToken) (payload : LoginRequest)
      (request : ClientRequest)
  /-- `POST /saml/acs`, with the token that its session would get. -/
  | samlAcs (now : Nat) (token : SessionToken) (request : AcsRequest)
  /-- The session check of a request. -/
  | authenticate (now : Nat) (cookieToken : Option String) (request : ClientRequest)
  /-- The handler of a request, or a command, under a plan of how its database operations end. -/
  | perform (task : ApplicationTask) (plan : List Outcome)
  /-- `POST /logout`. -/
  | logout (now : Nat) (cookieToken : Option String) (request : ClientRequest)
  /-- `POST /internal/mavis/auth`. -/
  | mavisAuth (req : AuthRequest) (plan : List Outcome)
  /-- `POST /internal/mavis/info`, with the orders in which its queries return rows. -/
  | mavisInfo (req : InfoRequest) (deviceOrder : RowOrder Device)
      (authorizationOrder : RowOrder Authorization) (plan : List Outcome)
  /-- A tick of the scheduler. -/
  | tick (times : RunTimes)
  /-- `_persist_one` and `_save_offset` of the ingestor, for a line with this address whose row the
  database takes, with the position behind the line. -/
  | ingest (nasIp : Option String) (position : Nat)
  /-- A transaction of a background loop in which it notes how far it is: of the forwarder, or of
  the ingestor before a log that has been rotated. -/
  | note (writes : List (LoopSetting × Option String))

/-- One step. A handler runs for a caller whose session has been found. -/
def Application.step (fold : CaseFolding) :
    Step Application (ApplicationHost fold × ApplicationEvent)
  | app, (host, .loginLocal now token payload request) =>
    some (app.afterLogin (loginLocal host.verify host.sessionCookieSecure app.loginTables now token
      payload request).1)
  | app, (host, .samlAcs now token request) =>
    match loadStoredSamlConfig host.baseUrl app.tables with
    | .error .typeError => some app
    | _ => some (app.afterLogin
        (samlAcs (app.samlEnvironment host) app.loginTables now token request).1)
  | app, (_, .authenticate now cookieToken request) =>
    match requireSession app.sessions now cookieToken request with
    | (sessions, .error _) => some { app with sessions := sessions }
    | (sessions, .ok active) =>
      some { app with
        sessions := sessions
        callers := app.callers ++ [active.toSessionContext] }
  | app, (host, .perform task plan) =>
    match task.caller with
    | none => some (app.perform (task.script host) plan)
    | some ctx =>
      if ctx ∈ app.callers then
        some { app.perform (task.script host) plan with callers := app.callers.erase ctx }
      else none
  | app, (_, .logout now cookieToken request) =>
    let ((sessions, audit), _) := logout app.sessions app.tables.auditLog now cookieToken request
    some { app with tables := { app.tables with auditLog := audit }, sessions := sessions }
  | app, (host, .mavisAuth req plan) =>
    some (app.perform (mavisAuthHandler fold host.server req) plan)
  | app, (_, .mavisInfo req deviceOrder authorizationOrder plan) =>
    some (app.perform (mavisInfoHandler fold deviceOrder authorizationOrder req) plan)
  | app, (host, .tick times) =>
    some (app.afterSync (tick host.admin.sync app.tables.syncStore times))
  | app, (_, .ingest nasIp position) =>
    some { app with
      tables := { app.tables with
        accountingDeviceIds :=
          app.tables.accountingDeviceIds ++ [resolveDeviceId app.tables.devices nasIp] }
      loopSettings := writeLoopSetting app.loopSettings
        (.accountingLogOffset, some (toString position)) }
  | app, (_, .note writes) =>
    some { app with loopSettings := writes.foldl writeLoopSetting app.loopSettings }

end TacacsWeb.Model
