import TacacsWeb.Verif.SyslogHeader

/-!
# Settings that are stored and settings that are in force

A PUT of the forwarder's or the sync's settings stores texts, and the workers read them with
defaults of their own. They work with what was put exactly when no text was empty that the reader
takes for a missing one: validation comes before trimming, so blanks get through it.
-/

namespace TacacsWeb.Verif

open TacacsWeb.Library TacacsWeb.Library.Text TacacsWeb.Library.UnitOfWork TacacsWeb.Model

/-! ## The statement -/

/-- `str.lower()` leaves words in small ASCII letters. -/
def KeepsSmall (fold : CaseFolding) : Prop :=
  ∀ text : String, (∀ char ∈ text.toList, 97 ≤ char.toNat ∧ char.toNat ≤ 122) →
    fold.python text = text

/-- The configuration that a PUT of the forwarder's settings asks for, over the stored secrets. -/
def requestedSyslog (payload : SyslogUpdate) (secrets : Dict String String) : SyslogConfig where
  enabled := payload.enabled
  host := strip payload.host
  port := payload.port
  protocol := payload.protocol
  facility := payload.facility
  appName := strip payload.appName
  hostname := strip payload.hostname
  tlsVerify := payload.tlsVerify
  tlsServerName := payload.tlsServerName
  tlsCaPem := secretAfter payload.tlsCaPem (secrets.get? "syslog.tls_ca_pem")
  tlsClientCertPem :=
    secretAfter payload.tlsClientCertPem (secrets.get? "syslog.tls_client_cert_pem")
  tlsClientKeyPem := secretAfter payload.tlsClientKeyPem (secrets.get? "syslog.tls_client_key_pem")

/-- The configuration that a PUT of the sync's settings asks for, with the stored URL. -/
def requestedSync (payload : LdapSyncUpdate) (url : String) : LdapSyncConfig where
  url := url
  bindDn := strip payload.bindDn
  baseDns := payload.baseDns.map PyString.text
  userFilter := (orNone (strip (payload.userFilter.getD ""))).getD defaultUserFilter
  cadenceSeconds := payload.cadenceSeconds
  enabled := payload.enabled

/-- The settings of the forwarder. -/
def syslogSettings : List String :=
  ["syslog.enabled", "syslog.host", "syslog.port", "syslog.protocol", "syslog.facility",
    "syslog.app_name", "syslog.hostname", "syslog.tls_verify", "syslog.tls_server_name"]

/-- The secrets of the forwarder. -/
def syslogSecrets : List String :=
  ["syslog.tls_ca_pem", "syslog.tls_client_cert_pem", "syslog.tls_client_key_pem"]

/-- The settings of the sync. The URL of the server is not one of them. -/
def syncSettings : List String :=
  ["ldap.bind_dn", "ldap.base_dns", "ldap.user_filter", "ldap.sync_cadence_seconds",
    "ldap.sync_enabled"]

/-- The secret of the sync. -/
def syncSecrets : List String := ["ldap.bind_password"]

/-- Every other setting and secret is as it was. -/
structure KeepsOthers (settings secrets : List String) (before after : AdminTables) : Prop where
  /-- The settings. -/
  settings : ∀ key ∉ settings, after.systemSettings.get? key = before.systemSettings.get? key
  /-- The secrets. -/
  secrets : ∀ key ∉ secrets, after.systemSecrets.get? key = before.systemSecrets.get? key

/-- The forwarder works with what was put. -/
structure SyslogInForce (fold : CaseFolding) (payload : SyslogUpdate) (before after : AdminTables) :
    Prop where
  /-- It loads what was asked for. -/
  loaded : loadSyslogConfig fold after.systemSettings after.systemSecrets =
    requestedSyslog payload before.systemSecrets
  /-- It sends when that is asked for. -/
  acts : payload.enabled = true →
    (loadSyslogConfig fold after.systemSettings after.systemSecrets).configured = true
  /-- Nothing else has changed. -/
  others : KeepsOthers syslogSettings syslogSecrets before after

/-- The sync works with what was put. -/
structure SyncInForce (fold : CaseFolding) (payload : LdapSyncUpdate) (url : String)
    (before after : AdminTables) : Prop where
  /-- It loads what was asked for. -/
  loaded : loadConfig fold Json.loads after.systemSettings =
    .ok (some (requestedSync payload url))
  /-- A password that is given is stored, and otherwise the stored one is kept. -/
  password : after.systemSecrets.get? "ldap.bind_password" =
    (payload.bindPassword.filter fun text => text ≠ "").or
      (before.systemSecrets.get? "ldap.bind_password")
  /-- Nothing else has changed. -/
  others : KeepsOthers syncSettings syncSecrets before after

/-- No text that the forwarder's reader takes for a missing one: the names of the sender are not
blank, the name of the receiver is not empty, and there is a receiver if lines are to be sent. -/
structure SyslogGiven (payload : SyslogUpdate) : Prop where
  /-- The receiver. -/
  host : payload.enabled = true → strip payload.host ≠ ""
  /-- The application name of the sender. -/
  appName : strip payload.appName ≠ ""
  /-- Its host name. -/
  hostname : strip payload.hostname ≠ ""
  /-- The name in the certificate. -/
  tlsServerName : payload.tlsServerName ≠ some ""

/-- A PUT of the sync's settings over these tables, with each of its statements ending as
planned. -/
def putSync (ctx : SessionContext) (tables : AdminTables) (sequences : AdminSequences)
    (payload : LdapSyncUpdate) (plan : List UnitOfWork.Outcome) :
    Session AdminTables AdminSequences AdminChange × Ending Reply :=
  (updateSyncConfig Json.dumps ctx payload).run adminEngine (.start tables sequences) plan

/-! ## What a PUT leaves -/

/-- A change writes no setting and no secret but these. -/
def WritesOnly (settings secrets : List String) : AdminChange → Prop
  | .systemSetting key _ => key ∈ settings
  | .systemSecret key _ => key ∈ secrets
  | _ => True

/-- A change leaves what it does not write. -/
theorem writeFlat_keepsOthers {settings secrets : List String} {change : AdminChange}
    (only : WritesOnly settings secrets change) (flat : FlatTables) :
    (∀ key ∉ settings,
        (writeFlat flat change).systemSettings.get? key = flat.systemSettings.get? key) ∧
      ∀ key ∉ secrets,
        (writeFlat flat change).systemSecrets.get? key = flat.systemSecrets.get? key := by
  cases change with
  | systemSetting written value =>
    refine ⟨fun key other => ?_, fun _ _ => rfl⟩
    have differs : key ≠ written := fun same => other (same ▸ only)
    rw [writeFlat, get?_writeKey, if_neg differs]
  | systemSecret written value =>
    refine ⟨fun _ _ => rfl, fun key other => ?_⟩
    have differs : key ≠ written := fun same => other (same ▸ only)
    rw [writeFlat, get?_writeKey, if_neg differs]
  | _ => exact ⟨fun _ _ => rfl, fun _ _ => rfl⟩

/-- Changes in a row keep the keys that none of them writes. -/
theorem foldl_keepsOthers {settings secrets : List String} {changes : List AdminChange}
    (only : ∀ change ∈ changes, WritesOnly settings secrets change) (flat : FlatTables) :
    (∀ key ∉ settings, (changes.foldl writeFlat flat).systemSettings.get? key =
        flat.systemSettings.get? key) ∧
      ∀ key ∉ secrets, (changes.foldl writeFlat flat).systemSecrets.get? key =
        flat.systemSecrets.get? key := by
  induction changes generalizing flat with
  | nil => exact ⟨fun _ _ => rfl, fun _ _ => rfl⟩
  | cons change changes ih =>
    have first := writeFlat_keepsOthers (only change List.mem_cons_self) flat
    have later := ih (fun other listed => only other (List.mem_cons_of_mem change listed))
      (writeFlat flat change)
    rw [List.foldl_cons]
    exact ⟨fun key other => (later.1 key other).trans (first.1 key other),
      fun key other => (later.2 key other).trans (first.2 key other)⟩

/-- A PUT that answers 200 leaves what it does not write. -/
theorem putSettings_keepsOthers {ctx : SessionContext} {writes : List AdminChange}
    {audit : AuditLog} {tables : AdminTables} {sequences : AdminSequences}
    {plan : List UnitOfWork.Outcome} {settings secrets : List String}
    (accepted : ((putSettings ctx writes audit).run adminEngine (.start tables sequences) plan).2 =
      .answered (.response 200))
    (only : ∀ change ∈ writes, WritesOnly settings secrets change) :
    KeepsOthers settings secrets tables ((putSettings ctx writes audit).run adminEngine
      (.start tables sequences) plan).1.durable.tables := by
  have flat := putSettings_flat accepted
  have each : ∀ change ∈ writes ++ [AdminChange.audit audit],
      WritesOnly settings secrets change := by
    intro change listed
    obtain written | last := List.mem_append.mp listed
    · exact only change written
    · rw [List.mem_singleton.mp last]
      trivial
  have kept := foldl_keepsOthers each (flatTables tables)
  rw [← flat] at kept
  exact ⟨kept.1, kept.2⟩

/-- A secret that is given or not is written and nothing else. -/
theorem secretWrite_only {settings secrets : List String} {secret : String} {given : Option String}
    (known : secret ∈ secrets) :
    ∀ change ∈ secretWrite secret given, WritesOnly settings secrets change := by
  intro change listed
  cases given with
  | none => exact absurd listed List.not_mem_nil
  | some text =>
    rw [List.mem_singleton.mp listed]
    exact known

/-! ## The forwarder -/

section Syslog

variable {fold : CaseFolding} {dumps : Json → String} {ctx : SessionContext} {tables : AdminTables}
  {sequences : AdminSequences} {payload : SyslogUpdate} {plan : List UnitOfWork.Outcome}

/-- A PUT of the forwarder's settings writes nothing else. -/
theorem putSyslog_keepsOthers
    (accepted : (putSyslog dumps ctx tables sequences payload plan).2 =
      .answered (.response 200)) :
    KeepsOthers syslogSettings syslogSecrets tables
      (putSyslog dumps ctx tables sequences payload plan).1.durable.tables := by
  apply putSettings_keepsOthers accepted
  intro change listed
  simp only [List.mem_append, or_assoc] at listed
  obtain plain | ca | cert | key := listed
  · simp only [List.mem_cons, List.not_mem_nil, or_false] at plain
    obtain rfl | rfl | rfl | rfl | rfl | rfl | rfl | rfl | rfl := plain <;>
      simp [WritesOnly, syslogSettings]
  · exact secretWrite_only (by simp [syslogSecrets]) change ca
  · exact secretWrite_only (by simp [syslogSecrets]) change cert
  · exact secretWrite_only (by simp [syslogSecrets]) change key

/-- A boolean setting is read back. -/
theorem settingBool_read {fold : CaseFolding} (small : KeepsSmall fold) (value : Bool) :
    (fold.python (settingBool value) = "true") = (value = true) := by
  have kept : fold.python (settingBool value) = settingBool value := by
    apply small
    cases value <;> exact forall_of_all (by decide +kernel)
  rw [kept]
  cases value <;> decide

/-- The protocol is read back. -/
theorem protocol_read (small : KeepsSmall fold) {protocol : String}
    (known : protocol ∈ ["udp", "tcp", "tls"]) :
    (if fold.python protocol = "tls" then "tls"
      else if fold.python protocol = "udp" then "udp" else "tcp") = protocol ∧ protocol ≠ "" := by
  have kept : fold.python protocol = protocol := by
    apply small
    simp only [List.mem_cons, List.not_mem_nil, or_false] at known
    obtain rfl | rfl | rfl := known <;> exact forall_of_all (by decide +kernel)
  rw [kept]
  simp only [List.mem_cons, List.not_mem_nil, or_false] at known
  obtain rfl | rfl | rfl := known <;> decide

/-- What the forwarder loads after a PUT of its settings: an empty name of the sender gives way to
the default, and an empty name of the receiver is none. -/
theorem loadSyslogConfig_stored (small : KeepsSmall fold) {after : AdminTables}
    (stored : SyslogStored payload tables after) :
    loadSyslogConfig fold after.systemSettings after.systemSecrets =
      { requestedSyslog payload tables.systemSecrets with
        appName := orElse (strip payload.appName) "tacacs-web"
        hostname := orElse (strip payload.hostname) "tacacs-web"
        tlsServerName := payload.tlsServerName.filter fun name => name ≠ "" } := by
  have range := payload.facilityRange
  have port := number_read payload.portRange.2
  have facility := number_read (show payload.facility ≤ 65535 by omega)
  have inRange : max 0 (min 23 (payload.facility : Int)) = payload.facility := by omega
  obtain ⟨protocol, named⟩ := protocol_read small payload.protocolKnown
  have portText : toString payload.port ≠ "" := toString_int_ne_empty payload.port
  have facilityText : toString payload.facility ≠ "" := toString_int_ne_empty payload.facility
  have host : orElse (strip payload.host) "" = strip payload.host := by
    by_cases empty : strip payload.host = ""
    · rw [empty]
      rfl
    · exact orElse_of_given empty
  unfold loadSyslogConfig requestedSyslog
  simp only [stored.enabled, stored.host, stored.port, stored.protocol, stored.facility,
    stored.appName, stored.hostname, stored.tlsVerify, stored.tlsServerName, stored.tlsCaPem,
    stored.tlsClientCertPem, stored.tlsClientKeyPem, filter_getD_eq_orElse]
  rw [orElse_of_given (settingBool_ne_empty payload.enabled), orElse_of_given portText,
    orElse_of_given facilityText, orElse_of_given (settingBool_ne_empty payload.tlsVerify),
    orElse_of_given named, host, port, facility, protocol]
  simp only [settingBool_read small, inRange, Option.getD_some, Bool.decide_eq_true]

/-- The forwarder works with what was put exactly when no text counts as missing. -/
theorem syslogInForce_iff (small : KeepsSmall fold)
    (accepted : (putSyslog dumps ctx tables sequences payload plan).2 =
      .answered (.response 200)) :
    SyslogInForce fold payload tables
        (putSyslog dumps ctx tables sequences payload plan).1.durable.tables ↔
      SyslogGiven payload := by
  have loaded := loadSyslogConfig_stored small (putSyslog_inStore accepted rfl)
  have named : "tacacs-web" ≠ "" := by decide
  constructor
  · intro inForce
    have same := inForce.loaded
    rw [loaded] at same
    constructor
    · intro enabled empty
      have configured := inForce.acts enabled
      rw [loaded, SyslogConfig.configured] at configured
      simp [requestedSyslog, empty] at configured
    · have appName := congrArg SyslogConfig.appName same
      exact (orElse_eq_self_iff named).mp appName
    · have hostname := congrArg SyslogConfig.hostname same
      exact (orElse_eq_self_iff named).mp hostname
    · intro empty
      have serverName := congrArg SyslogConfig.tlsServerName same
      simp only [requestedSyslog, empty] at serverName
      exact absurd serverName (by decide)
  · intro given
    have serverName : payload.tlsServerName.filter (fun name => decide (name ≠ "")) =
        payload.tlsServerName := by
      cases name : payload.tlsServerName with
      | none => rfl
      | some text =>
        have nonempty : text ≠ "" := fun empty => given.tlsServerName (empty ▸ name)
        exact given_text nonempty
    rw [orElse_of_given given.appName, orElse_of_given given.hostname, serverName] at loaded
    refine ⟨loaded, fun enabled => ?_, putSyslog_keepsOthers accepted⟩
    have host := given.host enabled
    rw [loaded, SyslogConfig.configured]
    simp [requestedSyslog, enabled, host]

end Syslog

/-! ## The sync -/

section Sync

variable {fold : CaseFolding} {ctx : SessionContext} {tables : AdminTables}
  {sequences : AdminSequences} {payload : LdapSyncUpdate} {plan : List UnitOfWork.Outcome}

/-- What the sync finds after a PUT of its settings. -/
structure SyncStored (payload : LdapSyncUpdate) (before after : AdminTables) : Prop where
  /-- `ldap.bind_dn`. -/
  bindDn : after.systemSettings.get? "ldap.bind_dn" = some (strip payload.bindDn)
  /-- `ldap.base_dns`. -/
  baseDns : after.systemSettings.get? "ldap.base_dns" =
    some (Json.dumps (.array (payload.baseDns.map fun dn => .string (.text dn))))
  /-- `ldap.user_filter`. -/
  userFilter : after.systemSettings.get? "ldap.user_filter" =
    orNone (strip (payload.userFilter.getD ""))
  /-- `ldap.sync_cadence_seconds`. -/
  cadenceSeconds : after.systemSettings.get? "ldap.sync_cadence_seconds" =
    some (toString payload.cadenceSeconds)
  /-- `ldap.sync_enabled`. -/
  enabled : after.systemSettings.get? "ldap.sync_enabled" = some (settingBool payload.enabled)
  /-- `ldap.bind_password`. -/
  bindPassword : after.systemSecrets.get? "ldap.bind_password" =
    (payload.bindPassword.filter fun text => text ≠ "").or
      (before.systemSecrets.get? "ldap.bind_password")

/-- A PUT of the sync's settings stores them. -/
theorem putSync_inStore {after : AdminTables}
    (accepted : (putSync ctx tables sequences payload plan).2 = .answered (.response 200))
    (stored : (putSync ctx tables sequences payload plan).1.durable.tables = after) :
    SyncStored payload tables after := by
  obtain ⟨settings, secrets⟩ := putSettings_stored accepted stored
  constructor
  any_goals
    rw [settings]
    split <;>
      simp only [List.foldl_append, List.foldl_cons, List.foldl_nil, audit_settings,
        setting_settings, secret_settings, get?_writeKey, String.reduceEq, if_false, if_true]
  rw [secrets]
  split
  · rename_i given
    rw [given]
    simp only [List.foldl_append, List.foldl_cons, List.foldl_nil, audit_secrets, setting_secrets,
      secret_secrets, get?_writeKey, if_true]
    rfl
  · rename_i given
    have kept : payload.bindPassword.filter (fun text => decide (text ≠ "")) = none :=
      given
    rw [kept]
    simp only [List.foldl_append, List.foldl_cons, List.foldl_nil, audit_secrets, setting_secrets,
      List.append_nil]
    rfl

/-- A PUT of the sync's settings writes nothing else. -/
theorem putSync_keepsOthers
    (accepted : (putSync ctx tables sequences payload plan).2 = .answered (.response 200)) :
    KeepsOthers syncSettings syncSecrets tables
      (putSync ctx tables sequences payload plan).1.durable.tables := by
  apply putSettings_keepsOthers accepted
  intro change listed
  obtain plain | secret := List.mem_append.mp listed
  · simp only [List.mem_cons, List.not_mem_nil, or_false] at plain
    obtain rfl | rfl | rfl | rfl | rfl := plain <;> simp [WritesOnly, syncSettings]
  · split at secret
    · rw [List.mem_singleton.mp secret]
      exact List.mem_singleton_self _
    · exact absurd secret List.not_mem_nil

/-- A setting that is not empty is there. -/
theorem truthySetting_given {settings : Dict String String} {key text : String}
    (stored : settings.get? key = some text) (given : text ≠ "") :
    truthySetting settings key = some text := by
  rw [truthySetting, stored, given_text given]

/-- What is written of the base DNs is read back. -/
theorem baseDns_read (baseDns : List String) :
    Json.loads (Json.dumps (.array (baseDns.map fun dn => .string (.text dn)))) =
      some (.array (baseDns.map fun dn => .string (.text dn))) := by
  apply Json.loads_dumps
  apply Json.Plain.array
  intro element listed
  obtain ⟨dn, -, rfl⟩ := List.mem_map.mp listed
  exact .string dn

/-- The strings of the base DNs are the base DNs. -/
theorem iterStrings_baseDns (baseDns : List String) :
    iterStrings (.array (baseDns.map fun dn => .string (.text dn))) =
      some (baseDns.map PyString.text) := by
  have each : baseDns.filterMap (some ∘ PyString.text) = baseDns.map PyString.text :=
    congrFun List.filterMap_eq_map baseDns
  rw [iterStrings, List.filterMap_map]
  exact congrArg some each

/-- A text that counts as absent when it is empty is not an empty one. -/
theorem filter_orNone (text : String) :
    (orNone text).filter (fun value => decide (value ≠ "")) = orNone text := by
  by_cases empty : text = ""
  · rw [orNone, if_pos empty]
    rfl
  · rw [orNone, if_neg empty, given_text empty]

/-- What the sync loads after a PUT of its settings, if there is a URL: nothing when the DN of the
service account is blank. -/
theorem loadConfig_stored (small : KeepsSmall fold) {after : AdminTables} {url : String}
    (stored : SyncStored payload tables after)
    (address : after.systemSettings.get? "ldap.url" = some url) (addressed : url ≠ "") :
    loadConfig fold Json.loads after.systemSettings =
      .ok (if strip payload.bindDn = "" then none else some (requestedSync payload url)) := by
  have loaded := baseDns_read payload.baseDns
  have iterated := iterStrings_baseDns payload.baseDns
  have dnsText : Json.dumps (.array (payload.baseDns.map fun dn => .string (.text dn))) ≠ "" := by
    intro empty
    have nothing : Json.loads "" = none := by decide +kernel
    rw [empty, nothing] at loaded
    cases loaded
  have cadence := parseInt_toString payload.cadenceSeconds
  rw [if_pos payload.cadenceDigits] at cadence
  have atLeast : max cadenceMinSeconds payload.cadenceSeconds = payload.cadenceSeconds :=
    max_eq_right payload.cadenceMinimum
  have cadenceText := toString_int_ne_empty payload.cadenceSeconds
  have enabledText := settingBool_ne_empty payload.enabled
  have userFilter : truthySetting after.systemSettings "ldap.user_filter" =
      orNone (strip (payload.userFilter.getD "")) := by
    rw [truthySetting, stored.userFilter, filter_orNone]
  unfold loadConfig
  by_cases blank : strip payload.bindDn = ""
  · have missing : truthySetting after.systemSettings "ldap.bind_dn" = none := by
      rw [truthySetting, stored.bindDn, blank]
      rfl
    rw [missing, if_pos blank]
    split
    · rename_i found _
      cases found
    · rfl
  · rw [truthySetting_given address addressed, truthySetting_given stored.bindDn blank,
      truthySetting_given stored.baseDns dnsText, if_neg blank]
    simp only [loaded, iterated, userFilter,
      truthySetting_given stored.cadenceSeconds cadenceText,
      truthySetting_given stored.enabled enabledText, Option.getD_some, cadence, atLeast,
      settingBool_read small, Bool.decide_eq_true]
    obtain ⟨first, others, parts⟩ := List.exists_cons_of_ne_nil payload.baseDnsGiven
    rw [requestedSync, parts]
    rfl

/-- The sync works with what was put exactly when the DN of the service account is not blank. -/
theorem syncInForce_iff (small : KeepsSmall fold)
    (accepted : (putSync ctx tables sequences payload plan).2 = .answered (.response 200))
    {url : String} (address : tables.systemSettings.get? "ldap.url" = some url)
    (addressed : url ≠ "") :
    SyncInForce fold payload url tables
        (putSync ctx tables sequences payload plan).1.durable.tables ↔
      strip payload.bindDn ≠ "" := by
  have stored := putSync_inStore accepted rfl
  have others := putSync_keepsOthers accepted
  have unlisted : "ldap.url" ∉ syncSettings := by decide
  have kept := (others.settings "ldap.url" unlisted).trans address
  have loaded := loadConfig_stored small stored kept addressed
  constructor
  · intro inForce blank
    have same := inForce.loaded
    rw [loaded, if_pos blank] at same
    cases same
  · intro given
    rw [if_neg given] at loaded
    exact ⟨loaded, stored.bindPassword, others⟩

end Sync

/-! ## The result -/

/-- `str.lower()` on ASCII leaves small letters. -/
theorem keepsSmall_ascii : KeepsSmall .ascii := by
  intro text small
  have each : ∀ char ∈ text.toList, char.toLower = char := by
    intro char listed
    have range := small char listed
    have low : ¬(char.val ≥ 'A'.val ∧ char.val ≤ 'Z'.val) := by
      rintro ⟨-, upper⟩
      have bound : char.toNat ≤ 90 := UInt32.le_iff_toNat_le.mp upper
      omega
    exact dif_neg low
  have same : text.toList.map Char.toLower = text.toList :=
    (List.map_congr_left each).trans (List.map_id _)
  change String.ofList (text.toList.map Char.toLower) = text
  rw [same, String.ofList_toList]

/-- After a PUT of the forwarder's settings that answers 200, the forwarder works with them exactly
when no text in them counts as missing; after one of the sync's settings, with the URL of the server
set, the sync does exactly when the DN of the service account is not blank. -/
theorem settingsInForce_iff {fold : CaseFolding} (small : KeepsSmall fold) (ctx : SessionContext)
    (tables : AdminTables) (sequences : AdminSequences) (plan : List UnitOfWork.Outcome) :
    (∀ payload : SyslogUpdate,
        (putSyslog Json.dumps ctx tables sequences payload plan).2 = .answered (.response 200) →
          (SyslogInForce fold payload tables
              (putSyslog Json.dumps ctx tables sequences payload plan).1.durable.tables ↔
            SyslogGiven payload)) ∧
      ∀ (payload : LdapSyncUpdate) (url : String),
        (putSync ctx tables sequences payload plan).2 = .answered (.response 200) →
          tables.systemSettings.get? "ldap.url" = some url → url ≠ "" →
            (SyncInForce fold payload url tables
                (putSync ctx tables sequences payload plan).1.durable.tables ↔
              strip payload.bindDn ≠ "") := by
  constructor
  · intro payload accepted
    exact syslogInForce_iff small accepted
  · intro payload url accepted address addressed
    exact syncInForce_iff small accepted address addressed

/-- The settings of the sync with some DN of the service account. -/
def boundAs (bindDn : String) (length : 1 ≤ bindDn.length ∧ bindDn.length ≤ 1024) :
    LdapSyncUpdate where
  bindDn := bindDn
  bindPassword := some "secret"
  baseDns := ["DC=corp"]
  userFilter := some " "
  cadenceSeconds := 60
  enabled := true
  bindDnLength := length
  bindPasswordLength := by decide
  baseDnsGiven := by decide
  userFilterLength := by decide
  cadenceMinimum := by decide
  cadenceDigits := by decide

/-- One row in every table, and the URL of the server. -/
def withUrl : AdminTables :=
  { oneOfEach with systemSettings := writeKey ∅ "ldap.url" (some "ldaps://dc1") }

/-- Names with spaces around them are in force without the spaces. -/
theorem settingsInForce_trimmed :
    SyslogInForce .ascii (senderNamed " fw1 " (by decide)) withUrl
        (putSyslog Json.dumps adminAtBrowser withUrl ⟨2, 2, 2, 2⟩
          (senderNamed " fw1 " (by decide)) []).1.durable.tables ∧
      SyncInForce .ascii (boundAs " CN=sync " (by decide)) "ldaps://dc1" withUrl
        (putSync adminAtBrowser withUrl ⟨2, 2, 2, 2⟩
          (boundAs " CN=sync " (by decide)) []).1.durable.tables := by
  have both := settingsInForce_iff keepsSmall_ascii adminAtBrowser withUrl ⟨2, 2, 2, 2⟩ []
  constructor
  · apply (both.1 (senderNamed " fw1 " (by decide)) (by decide +kernel)).mpr
    exact ⟨fun _ => by decide +kernel, by decide +kernel, by decide +kernel, by decide +kernel⟩
  · apply (both.2 (boundAs " CN=sync " (by decide)) "ldaps://dc1" (by decide +kernel)
      (by decide +kernel) (by decide)).mpr
    decide +kernel

/-- Blanks for the receiver have the length that is asked for. -/
theorem blankHost_length : 1 ≤ "   ".length ∧ "   ".length ≤ 255 := by decide

/-- The settings of a forwarder that is to send to a blank receiver. -/
def blankHost : SyslogUpdate :=
  { senderNamed "fw1" (by decide) with host := "   ", hostLength := blankHost_length }

/-- Forwarding is switched on for a blank receiver, the answer is 200, and nothing is sent. -/
theorem blankHost_not_inForce :
    ¬∀ (ctx : SessionContext) (tables : AdminTables) (sequences : AdminSequences)
      (payload : SyslogUpdate) (plan : List UnitOfWork.Outcome),
        (putSyslog Json.dumps ctx tables sequences payload plan).2 = .answered (.response 200) →
          SyslogInForce .ascii payload tables
            (putSyslog Json.dumps ctx tables sequences payload plan).1.durable.tables := by
  intro claimed
  have inForce := claimed adminAtBrowser oneOfEach ⟨2, 2, 2, 2⟩ blankHost [] (by decide +kernel)
  have enabled : blankHost.enabled = true := rfl
  exact absurd (inForce.acts enabled) (by decide +kernel)

end TacacsWeb.Verif
