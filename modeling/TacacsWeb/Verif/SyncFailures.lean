import TacacsWeb.Model.SyncWorker
import TacacsWeb.Verif.SyncIdentity

/-!
# Syncs that fail

A run that fails changes no table, whoever started it. The scheduled job catches every exception
and leaves its text in the last result. The endpoint records only what was wrapped as a
`SyncRunError`, and only when the audit row fits its columns: a violated constraint, which the job
wraps, leaves the endpoint without a trace, and so does an error of the server object.
-/

namespace TacacsWeb.Verif

open TacacsWeb.Library TacacsWeb.Model

variable {host : SyncHost} {ctx : SessionContext} {store : SyncStore} {times : RunTimes}
  {client : LdapClient} {failure : SyncFailure}

/-! ## Where a run stops -/

/-- The client library raises an `LDAPException` with a text that a column takes. -/
def StorableFault (raised : LdapRaised) : Prop :=
  raised.fault = .ldapException ∧ textFits none (some raised.text) = true

/-- The directory fails where the run expects it: `Server(...)` accepts the URL, and the bind or a
search raises an `LDAPException`, whose text has no NUL. -/
def LdapFails (client : LdapClient) (endpoint : LdapEndpoint) (config : LdapSyncConfig)
    (password : String) : Prop :=
  client.construct endpoint = none ∧
    ((∃ raised, client.connect endpoint config.bindDn password = some raised ∧
        StorableFault raised) ∨
      client.connect endpoint config.bindDn password = none ∧ client.unbind = none ∧
        ∃ raised, fetchUsers client config.baseDns config.userFilter = .error raised ∧
          StorableFault raised)

/-- The run stops because it is not configured, or because the directory fails where the run
expects it. -/
def StopsExpectedly (host : SyncHost) (store : SyncStore) : Prop :=
  match loadConfig host.fold host.loads store.systemSettings with
  | .error _ => False
  | .ok none => True
  | .ok (some config) =>
    match store.systemSecrets.get? "ldap.bind_password" with
    | none => True
    | some password => LdapFails host.client (config.endpoint host.fold) config password

/-- A failure is a `SyncRunError` with a text that a column takes. -/
def StorableError (failure : SyncFailure) : Prop :=
  ∃ message, failure = .syncRunError message ∧ textFits none (some message) = true

/-- A text fits behind another one that does if and only if it fits alone. -/
theorem textFits_append {front back : String} (fits : textFits none (some front) = true) :
    textFits none (some (front ++ back)) = textFits none (some back) := by
  simp only [textFits, Option.all_some, Option.all_none, Bool.true_and, Bool.not_eq_true'] at fits
  simp only [textFits, Option.all_some, Option.all_none, Bool.true_and, String.toList_append,
    List.contains_append, fits, Bool.false_or]

/-- Only an `LDAPException` is wrapped. -/
theorem wrap_storableError {context : String} (fits : textFits none (some context) = true)
    {raised : LdapRaised} : StorableError (raised.wrap context) ↔ StorableFault raised := by
  unfold StorableError StorableFault LdapRaised.wrap
  cases raised.fault with
  | ldapException => simp [textFits_append fits]
  | other => simp

/-- A fetch ends in such a `SyncRunError` exactly when the directory fails where the run expects
it. -/
theorem fetchRecords_storableError {endpoint : LdapEndpoint} {config : LdapSyncConfig}
    {password : String} :
    (∃ failure, fetchRecords client endpoint config password = .error failure ∧
      StorableError failure) ↔ LdapFails client endpoint config password := by
  have bind : textFits none (some "LDAP bind failed: ") = true := by decide +kernel
  have search : textFits none (some "LDAP search failed: ") = true := by decide +kernel
  have unwrapped : ∀ raised, ¬StorableError (.ldapRaised raised) := by
    intro raised storable
    obtain ⟨message, same, -⟩ := storable
    cases same
  unfold fetchRecords LdapFails
  cases client.construct endpoint with
  | some raised => simp [unwrapped]
  | none =>
    cases client.connect endpoint config.bindDn password with
    | some raised => simp [wrap_storableError bind]
    | none =>
      cases client.unbind with
      | some raised => simp [unwrapped]
      | none =>
        cases fetchUsers client config.baseDns config.userFilter with
        | error raised => simp [wrap_storableError search]
        | ok records => simp

/-- What `run_sync` raises is never wrapped. -/
theorem not_storableError_failure (error : SyncError) : ¬StorableError error.failure := by
  intro storable
  obtain ⟨message, same, -⟩ := storable
  cases error <;> cases same

/-- A run ends in such a `SyncRunError` exactly when it stops where it expects to. -/
theorem runFullSync_storableError :
    (∃ failure, runFullSync host store times = .error failure ∧ StorableError failure) ↔
      StopsExpectedly host store := by
  unfold runFullSync StopsExpectedly
  cases loadConfig host.fold host.loads store.systemSettings with
  | error raised => simp [StorableError]
  | ok found =>
    cases found with
    | none =>
      refine iff_of_true ⟨_, rfl, _, rfl, ?_⟩ trivial
      decide +kernel
    | some config =>
      cases store.systemSecrets.get? "ldap.bind_password" with
      | none =>
        refine iff_of_true ⟨_, rfl, _, rfl, ?_⟩ trivial
        decide +kernel
      | some password =>
        dsimp only
        rw [← fetchRecords_storableError]
        cases fetchRecords host.client (config.endpoint host.fold) config password with
        | error failure => simp [Except.bind]
        | ok records =>
          simp only [Except.bind]
          cases runSync host.fold store.identity _ with
          | ok committed => simp [Except.mapError, Except.map]
          | error error =>
            simp [Except.mapError, Except.map, not_storableError_failure error]

/-! ## What is recorded -/

/-- Both callers leave the tables and record the failure in the same words: the endpoint in one row
of the audit log, the scheduled job in the last result. -/
structure FailureRecorded (host : SyncHost) (ctx : SessionContext) (store : SyncStore)
    (times : RunTimes) : Prop where
  /-- The endpoint leaves the tables. -/
  manualTables : (runNow host ctx store times).2.identity = store.identity
  /-- The job leaves the tables. -/
  tickTables : (tick host store times).identity = store.identity
  /-- What is recorded. -/
  text : ∃ text row summary,
    (runNow host ctx store times).2.auditLog = store.auditLog ++ [row] ∧
      row.action = .ldapSyncRunFailed ∧ row.summary = some text ∧
    (tick host store times).lastSyncResult = some summary ∧ summary.error = some text

/-- The thread of the endpoint raises what the run raises. -/
theorem runSyncInThread_error (failed : runFullSync host store times = .error failure) :
    runSyncInThread host store times = .error failure := by
  unfold runSyncInThread
  cases found : loadConfig host.fold host.loads store.systemSettings with
  | error raised =>
    simp only [runFullSync, found] at failed
    obtain rfl := Except.error.inj failed
    rfl
  | ok config =>
    cases config with
    | none =>
      simp only [runFullSync, found] at failed
      obtain rfl := Except.error.inj failed
      rfl
    | some config =>
      dsimp only
      rw [failed]
      rfl

/-- The job records every failure, whatever is raised. -/
theorem tick_records (failed : runFullSync host store times = .error failure) :
    (tick host store times).identity = store.identity ∧
      ∃ summary text, (tick host store times).lastSyncResult = some summary ∧
        summary.error = some text := by
  unfold tick runOnceSync
  rw [failed]
  cases failure with
  | syncRunError message => exact ⟨rfl, _, message, rfl, rfl⟩
  | integrityError constraint => exact ⟨rfl, _, _, rfl, rfl⟩
  | ldapRaised raised => exact ⟨rfl, _, _, rfl, rfl⟩
  | other className => exact ⟨rfl, _, _, rfl, rfl⟩

/-- What the audit row takes from the caller fits its columns. -/
def CallerFits (ctx : SessionContext) : Prop := (runAudit ctx .ldapSyncRunFailed "").fits = true

/-- The audit row of a failed run fits when what it takes from the caller does and so does its
text. -/
theorem runAudit_fits (ctx : SessionContext) (message : String) :
    (runAudit ctx .ldapSyncRunFailed message).fits = true ↔
      CallerFits ctx ∧ textFits none (some message) = true := by
  have empty : textFits none (some "") = true := by decide +kernel
  simp only [CallerFits, AuditLog.fits, runAudit, empty, Bool.and_eq_true]
  tauto

/-- The endpoint records a `SyncRunError` whose row fits. -/
theorem runNow_recorded {message : String} (isAdmin : ctx.role = "admin")
    (failed : runFullSync host store times = .error (.syncRunError message))
    (fits : (runAudit ctx .ldapSyncRunFailed message).fits = true) :
    (runNow host ctx store times).2 =
      { store with auditLog := store.auditLog ++ [runAudit ctx .ldapSyncRunFailed message] } := by
  unfold runNow
  rw [if_neg (not_not.mpr isAdmin), runSyncInThread_error failed]
  simp only [SyncStore.recorded, if_pos fits]

/-- The endpoint leaves no trace of any other failure. -/
theorem runNow_unrecorded (isAdmin : ctx.role = "admin")
    (failed : runFullSync host store times = .error failure)
    (unfit : ¬(CallerFits ctx ∧ StorableError failure)) :
    (runNow host ctx store times).2 = store := by
  unfold runNow
  rw [if_neg (not_not.mpr isAdmin), runSyncInThread_error failed]
  cases failure with
  | syncRunError message =>
    have refused : ¬(runAudit ctx .ldapSyncRunFailed message).fits = true := by
      rw [runAudit_fits]
      exact fun fits => unfit ⟨fits.1, message, rfl, fits.2⟩
    simp only [SyncStore.recorded, if_neg refused]
  | _ => rfl

/-- The failure of a run is recorded by both callers exactly when the run stops where it expects
to and what the audit row takes from the caller fits its columns. -/
theorem failureRecorded_iff (isAdmin : ctx.role = "admin")
    (failed : ∃ failure, runFullSync host store times = .error failure) :
    FailureRecorded host ctx store times ↔ CallerFits ctx ∧ StopsExpectedly host store := by
  obtain ⟨failure, failed⟩ := failed
  have stops : StopsExpectedly host store ↔ StorableError failure := by
    rw [← @runFullSync_storableError host store times]
    constructor
    · intro found
      obtain ⟨other, same, storable⟩ := found
      rw [failed] at same
      rwa [Except.error.inj same]
    · exact fun storable => ⟨failure, failed, storable⟩
  rw [stops]
  constructor
  · intro recorded
    by_contra unfit
    obtain ⟨text, row, summary, logged, -⟩ := recorded.text
    rw [runNow_unrecorded isAdmin failed unfit] at logged
    simp at logged
  · intro condition
    obtain ⟨caller, message, same, storable⟩ := condition
    rw [same] at failed
    have stored := runNow_recorded isAdmin failed ((runAudit_fits ctx message).mpr
      ⟨caller, storable⟩)
    refine ⟨by rw [stored], (tick_records failed).1, message,
      runAudit ctx .ldapSyncRunFailed message,
      ⟨times.started, some times.finishedAt, 0, 0, 0, 0, 0, some message⟩, by rw [stored], rfl,
      rfl, ?_, rfl⟩
    unfold tick runOnceSync
    rw [failed]
    rfl

/-- An administrator. -/
def administrator : SessionContext := ⟨"root", "admin", "local", some 1, some "10.0.0.9", none⟩

/-- A host with a directory and one base DN. -/
def hostOf (client : LdapClient) : SyncHost where
  fold := .ascii
  loads text := if text = "[\"dc=corp\"]" then some (.array [.string (.text "dc=corp")]) else none
  client := client
  constraintDetail _ := "duplicate key value violates unique constraint"
  reprFailure _ := "LDAPException()"
  took := "0.01"

/-- A configured store with two accounts. -/
def configured : SyncStore where
  identity := ⟨[accountRow 1 "jan" "01010101-0101-0101-0101-010101010101",
    accountRow 2 "eva" "02020202-0202-0202-0202-020202020202"], [], [], 3, 1⟩
  systemSettings := .ofList [("ldap.url", "ldaps://dc1.corp"), ("ldap.bind_dn", "cn=sync,dc=corp"),
    ("ldap.base_dns", "[\"dc=corp\"]")]
  systemSecrets := .ofList [("ldap.bind_password", "secret")]
  lastSyncResult := none
  auditLog := []

/-- An entry of an account. -/
def entryOf (name : String) (guid : List UInt8) : SearchItem where
  type := "searchResEntry"
  dn := "cn=" ++ name ++ ",dc=corp"
  attributes := .ofList [("sAMAccountName", .text name)]
  rawAttributes := .ofList [("objectGUID", .bytes guid)]

/-- A directory that refuses the service account. -/
def refusing : LdapClient where
  construct _ := none
  connect _ _ _ := some ⟨.ldapException, "invalidCredentials"⟩
  search _ _ _ _ := ⟨[], none⟩
  unbind := none

/-- A directory in which the two accounts have swapped their names. -/
def swapped : LdapClient where
  construct _ := none
  connect _ _ _ := none
  search _ filter _ _ :=
    if filter = defaultUserFilter then
      ⟨[entryOf "eva" (List.replicate 16 1), entryOf "jan" (List.replicate 16 2)], none⟩
    else ⟨[], none⟩
  unbind := none

/-- A refused bind is recorded by both callers. -/
theorem failureRecorded_refused :
    FailureRecorded (hostOf refusing) administrator configured ⟨0, 0, 0, 0⟩ := by
  have failed : runFullSync (hostOf refusing) configured ⟨0, 0, 0, 0⟩ =
      .error (.syncRunError "LDAP bind failed: invalidCredentials") := by decide +kernel
  have storable : StorableError (.syncRunError "LDAP bind failed: invalidCredentials") :=
    ⟨_, rfl, by decide +kernel⟩
  exact (failureRecorded_iff rfl ⟨_, failed⟩).mpr
    ⟨by unfold CallerFits; decide +kernel, runFullSync_storableError.mp ⟨_, failed, storable⟩⟩

/-- A violated constraint leaves no trace of a run that was started by hand. -/
theorem violation_not_recorded :
    ¬ ∀ (host : SyncHost) (ctx : SessionContext) (store : SyncStore) (times : RunTimes),
      store.identity.Valid host.fold → ctx.role = "admin" →
        (∃ failure, runFullSync host store times = .error failure) →
          FailureRecorded host ctx store times := by
  intro claimed
  have failed : runFullSync (hostOf swapped) configured ⟨0, 0, 0, 0⟩ =
      .error (.integrityError .userSamAccountName) := by decide +kernel
  have reached : Reachable .ascii configured.identity :=
    .sync (syncOf [account "jan" "01010101-0101-0101-0101-010101010101",
      account "eva" "02020202-0202-0202-0202-020202020202"]) .empty (by rfl)
  have recorded := claimed (hostOf swapped) administrator configured ⟨0, 0, 0, 0⟩
    (reachable_valid reached) rfl ⟨_, failed⟩
  obtain ⟨text, row, summary, logged, -⟩ := recorded.text
  have unfit : ¬(CallerFits administrator ∧
      StorableError (.integrityError .userSamAccountName)) := by
    intro condition
    obtain ⟨-, message, same, -⟩ := condition
    cases same
  rw [runNow_unrecorded rfl failed unfit] at logged
  cases logged

end TacacsWeb.Verif
