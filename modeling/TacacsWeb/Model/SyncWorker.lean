import TacacsWeb.Model.Audit
import TacacsWeb.Model.Ldap3Client

/-!
# The sync worker and its two callers

`app/ldap_sync/worker.py` with `run_full_sync`, and the two wrappers around it: the job of
`app/ldap_sync/scheduler.py` and `POST /settings/ldap-sync/run` of
`app/api/v1/settings_ldap_sync.py`. The summary of the last run is kept as the record that its
JSON text holds, and times are numbers.
-/

namespace TacacsWeb.Model

open TacacsWeb.Library TacacsWeb.Library.Text

/-! ## Configuration -/

/-- `LdapSyncConfig`. -/
structure LdapSyncConfig where
  /-- The server URL. -/
  url : String
  /-- The DN of the service account. -/
  bindDn : String
  /-- Where to search. -/
  baseDns : List PyString
  /-- What to search for. -/
  userFilter : String
  /-- Seconds between two scheduled runs. -/
  cadenceSeconds : Int
  /-- Whether runs are scheduled. -/
  enabled : Bool
deriving DecidableEq

/-- The endpoint of a run. -/
def LdapSyncConfig.endpoint (fold : CaseFolding) (config : LdapSyncConfig) : LdapEndpoint :=
  ⟨config.url, startsWith "ldaps://" (fold.python config.url), 15⟩

/-- `CADENCE_DEFAULT_SECONDS`. -/
def cadenceDefaultSeconds : Int := 3600

/-- `CADENCE_MIN_SECONDS`. -/
def cadenceMinSeconds : Int := 60

/-- A string of one code point. -/
def pyChar (codePoint : Nat) : PyString :=
  if 0xD800 ≤ codePoint ∧ codePoint ≤ 0xDFFF then .surrogates [codePoint]
  else .text (String.singleton (Char.ofNat codePoint))

/-- The strings that a `for` loop over a JSON value meets: the entries of a list, the keys of a
dict and the characters of a string. Nothing else can be iterated. -/
def iterStrings : Json → Option (List PyString)
  | .array elements => some (elements.filterMap Json.asString)
  | .object members => some (members.map Prod.fst).eraseDups
  | .string (.text value) => some (value.toList.map fun char => .text (String.singleton char))
  | .string (.surrogates codePoints) => some (codePoints.map pyChar)
  | _ => none

/-- A setting that is there and not empty. -/
def truthySetting (settings : Dict String String) (key : String) : Option String :=
  (settings.get? key).filter (· ≠ "")

/-- `load_config`, with `json.loads` as a function that fails on a `JSONDecodeError`. An error is
the `TypeError` of a loop over a value that cannot be iterated. -/
def loadConfig (fold : CaseFolding) (loads : String → Option Json)
    (settings : Dict String String) : Except Unit (Option LdapSyncConfig) :=
  match truthySetting settings "ldap.url", truthySetting settings "ldap.bind_dn",
      truthySetting settings "ldap.base_dns" with
  | some url, some bindDn, some baseDnsRaw =>
    match loads baseDnsRaw with
    | none => .ok none
    | some decoded =>
      match iterStrings decoded with
      | none => .error ()
      | some [] => .ok none
      | some baseDns =>
        let cadence := (truthySetting settings "ldap.sync_cadence_seconds").getD "3600"
        let enabled := (truthySetting settings "ldap.sync_enabled").getD "false"
        .ok (some {
          url := url
          bindDn := bindDn
          baseDns := baseDns
          userFilter := (truthySetting settings "ldap.user_filter").getD defaultUserFilter
          cadenceSeconds := match parseInt cadence with
            | some seconds => max cadenceMinSeconds seconds
            | none => cadenceDefaultSeconds
          enabled := fold.python enabled = "true" })
  | _, _, _ => .ok none

/-! ## A full run -/

/-- What `run_full_sync` raises. -/
inductive SyncFailure where
  /-- `SyncRunError`. -/
  | syncRunError (message : String)
  /-- An exception of the client library that is not wrapped. -/
  | ldapRaised (raised : LdapRaised)
  /-- `IntegrityError` of a flush. -/
  | integrityError (constraint : UniqueConstraint)
  /-- Any other exception, by class name. -/
  | other (className : String)
deriving DecidableEq

/-- What `run_sync` raises, to its caller. -/
def SyncError.failure : SyncError → SyncFailure
  | .uniqueViolation constraint => .integrityError constraint
  | .multipleResultsFound => .other "MultipleResultsFound"
  | .valueRefused => .other "DataError"

/-- `LdapSyncRunSummary`. -/
structure LdapSyncRunSummary where
  /-- When the run began. -/
  startedAt : Nat
  /-- When it ended. -/
  finishedAt : Option Nat
  /-- Records read. -/
  usersSeen : Nat
  /-- Rows inserted. -/
  usersInserted : Nat
  /-- Records that matched a row. -/
  usersUpdated : Nat
  /-- Rows disabled. -/
  usersDisabled : Nat
  /-- Distinct groups. -/
  groupsSeen : Nat
  /-- What went wrong. -/
  error : Option String
deriving DecidableEq

/-- `from_sync_result`, with the start of the whole run. -/
def fromSyncResult (started : Nat) (result : SyncResult) : LdapSyncRunSummary where
  startedAt := started
  finishedAt := result.finishedAt
  usersSeen := result.usersSeen
  usersInserted := result.usersInserted
  usersUpdated := result.usersUpdated
  usersDisabled := result.usersDisabled
  groupsSeen := result.groupsSeen
  error := none

/-- What of the database a run and its callers read and write. -/
structure SyncStore where
  /-- `user`, `ad_group` and `user_ad_group`. -/
  identity : IdentityTables
  /-- `system_setting` but for `ldap.last_sync_result`. -/
  systemSettings : Dict String String
  /-- `system_secret`, decrypted. -/
  systemSecrets : Dict String String
  /-- `ldap.last_sync_result`. -/
  lastSyncResult : Option LdapSyncRunSummary
  /-- `audit_log`, the latest row last. -/
  auditLog : List AuditLog

/-- The times a run reads from the clock. -/
structure RunTimes where
  /-- `started` of `run_full_sync`. -/
  started : Nat
  /-- `started_at` of `run_sync`. -/
  startedAt : Nat
  /-- `now` of `run_sync`. -/
  now : Nat
  /-- `finished_at` of `run_sync`, or of the failure marker. -/
  finishedAt : Nat

/-- What a run depends on besides the database. -/
structure SyncHost where
  /-- The lower-casing functions. -/
  fold : CaseFolding
  /-- `json.loads`. -/
  loads : String → Option Json
  /-- The directory. -/
  client : LdapClient
  /-- The text of the driver's error behind an `IntegrityError`. -/
  constraintDetail : UniqueConstraint → String
  /-- `repr` of an exception. -/
  reprFailure : SyncFailure → String
  /-- How long the run took, as the endpoint prints it. -/
  took : String

/-- `except LDAPException` around a call of the client library. -/
def LdapRaised.wrap (context : String) (raised : LdapRaised) : SyncFailure :=
  match raised.fault with
  | .ldapException => .syncRunError (context ++ raised.text)
  | .other => .ldapRaised raised

/-- The connection of a run and what is fetched over it. -/
def fetchRecords (client : LdapClient) (endpoint : LdapEndpoint) (config : LdapSyncConfig)
    (password : String) : Except SyncFailure (List ADUserRecord) :=
  match client.construct endpoint with
  -- The server object is built outside the `try`, so its errors are not wrapped.
  | some raised => .error (.ldapRaised raised)
  | none =>
    match client.connect endpoint config.bindDn password with
    | some raised => .error (raised.wrap "LDAP bind failed: ")
    | none =>
      let fetched := fetchUsers client config.baseDns config.userFilter
      -- What `unbind` raises in the `finally` replaces everything else.
      match client.unbind, fetched with
      | some raised, _ => .error (.ldapRaised raised)
      | none, .error raised => .error (raised.wrap "LDAP search failed: ")
      | none, .ok records => .ok records

/-- `run_full_sync` up to its `_persist_summary`: the tables that `run_sync` has committed, and the
summary that the caller commits. -/
def runFullSync (host : SyncHost) (store : SyncStore) (times : RunTimes) :
    Except SyncFailure (IdentityTables × LdapSyncRunSummary) :=
  match loadConfig host.fold host.loads store.systemSettings with
  | .error _ => .error (.other "TypeError")
  | .ok none => .error (.syncRunError "LDAP sync is not configured")
  | .ok (some config) =>
    match store.systemSecrets.get? "ldap.bind_password" with
    | none => .error (.syncRunError "LDAP bind password is not set")
    | some password =>
      (fetchRecords host.client (config.endpoint host.fold) config password).bind fun records =>
        ((runSync host.fold store.identity
            ⟨times.startedAt, times.now, times.finishedAt, records⟩).mapError SyncError.failure).map
          fun (committed, result) => (committed, fromSyncResult times.started result)

/-- The store after a run and the commit of its caller. -/
def SyncStore.committed (store : SyncStore) (outcome : IdentityTables × LdapSyncRunSummary) :
    SyncStore :=
  { store with identity := outcome.1, lastSyncResult := some outcome.2 }

/-! ## The scheduled job -/

/-- `_run_once_sync`: on any exception the session is rolled back. -/
def runOnceSync (host : SyncHost) (store : SyncStore) (times : RunTimes) :
    Except SyncFailure SyncStore :=
  match runFullSync host store times with
  | .ok outcome => .ok (store.committed outcome)
  | .error (.integrityError constraint) =>
    .error (.syncRunError
      ("DB constraint violation during sync: " ++ host.constraintDetail constraint))
  | .error failure => .error failure

/-- `persist_error_summary`. -/
def persistErrorSummary (store : SyncStore) (times : RunTimes) (error : String) : SyncStore :=
  let summary : LdapSyncRunSummary :=
    ⟨times.started, some times.finishedAt, 0, 0, 0, 0, 0, some error⟩
  { store with lastSyncResult := some summary }

/-- `_tick`: the store after it. -/
def tick (host : SyncHost) (store : SyncStore) (times : RunTimes) : SyncStore :=
  match runOnceSync host store times with
  | .ok after => after
  | .error (.syncRunError message) => persistErrorSummary store times message
  | .error failure => persistErrorSummary store times ("unexpected: " ++ host.reprFailure failure)

/-! ## The endpoint -/

/-- How `run_now` answers, less the status that a success returns. -/
inductive RunResponse where
  /-- 200. -/
  | ok
  /-- 400 with this detail. -/
  | badRequest (detail : String)
  /-- 403. -/
  | adminRequired
  /-- The exception leaves the handler, and the framework answers 500. -/
  | raised (failure : SyncFailure)
deriving DecidableEq

/-- `_run_sync_in_thread`: on any exception the session is rolled back. -/
def runSyncInThread (host : SyncHost) (store : SyncStore) (times : RunTimes) :
    Except SyncFailure (SyncStore × LdapSyncRunSummary) :=
  match loadConfig host.fold host.loads store.systemSettings with
  | .error _ => .error (.other "TypeError")
  | .ok none => .error (.syncRunError "LDAP sync is not configured")
  | .ok (some _) =>
    (runFullSync host store times).map fun outcome => (store.committed outcome, outcome.2)

/-- The audit row of `run_now`. -/
def runAudit (ctx : SessionContext) (action : AuditAction) (summary : String) : AuditLog where
  actorId := ctx.actorId
  actorUsernameSnapshot := ctx.username
  actorRole := ctx.role
  authMethod := ctx.authMethod
  action := action
  targetType := some "ldap_sync"
  targetId := none
  summary := some summary
  clientIp := ctx.clientIp
  userAgent := ctx.userAgent

/-- The summary of a run that went through. -/
def runSummaryText (took : String) (summary : LdapSyncRunSummary) : String :=
  s!"users_seen={summary.usersSeen}, inserted={summary.usersInserted}, " ++
    s!"updated={summary.usersUpdated}, disabled={summary.usersDisabled}, " ++
    s!"groups={summary.groupsSeen}, took={took}s"

/-- The audit row of the request is inserted and committed. A row that does not fit its columns is a
`DataError`, which leaves the handler. -/
def SyncStore.recorded (store : SyncStore) (row : AuditLog) (response : RunResponse) :
    RunResponse × SyncStore :=
  if row.fits then (response, { store with auditLog := store.auditLog ++ [row] })
  else (.raised (.other "DataError"), store)

/-- `run_now`: the answer, and the store after it. -/
def runNow (host : SyncHost) (ctx : SessionContext) (store : SyncStore) (times : RunTimes) :
    RunResponse × SyncStore :=
  if ctx.role ≠ "admin" then (.adminRequired, store)
  else
    match runSyncInThread host store times with
    | .ok (after, summary) =>
      after.recorded
        (runAudit ctx .ldapSyncRunSucceeded (runSummaryText host.took summary)) .ok
    | .error (.syncRunError message) =>
      store.recorded (runAudit ctx .ldapSyncRunFailed message) (.badRequest message)
    | .error failure => (.raised failure, store)

end TacacsWeb.Model
