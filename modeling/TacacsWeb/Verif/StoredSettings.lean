import TacacsWeb.Model.SyslogLines
import TacacsWeb.Verif.AuditedTogether

/-!
# What a PUT of settings stores

A PUT that answers 200 has committed its writes and its audit row, so what a key has afterwards is
read off the list of writes. What is stored are texts, and a reader that takes an empty one for a
missing one puts a default in its place.
-/

namespace TacacsWeb.Verif

open TacacsWeb.Library TacacsWeb.Library.Text TacacsWeb.Library.UnitOfWork TacacsWeb.Model

/-! ## What is committed -/

/-- What a PUT of settings ends with: nothing is committed and the answer is not 200, or its writes
and the audit row are. -/
theorem putSettings_ensures {ctx : SessionContext} {writes : List AdminChange} {audit : AuditLog}
    {tables : AdminTables} {sequences : AdminSequences}
    {post : Version AdminTables AdminChange → Ending Reply → Prop}
    (nothing : ∀ ending, ending ≠ .answered (.response 200) → post ⟨tables, []⟩ ending)
    (everything : ∀ version ending, version.journal = writes ++ [AdminChange.audit audit] →
      post version ending) :
    (putSettings ctx writes audit).Ensures adminEngine post (.start tables sequences) := by
  unfold putSettings
  split
  · exact nothing _ nofun
  · refine writeEach_ensures (nothing _ nofun) (nothing _ nofun)
      ⟨nothing _ nofun, nothing _ nofun, fun _ => nothing _ nofun, fun committed step => ?_⟩
    have journal := Session.commit_journal step
    exact ⟨everything _ _ journal, everything _ _ journal⟩

/-- A PUT that answers 200 has committed its writes and its audit row. -/
theorem putSettings_written {ctx : SessionContext} {writes : List AdminChange} {audit : AuditLog}
    {tables : AdminTables} {sequences : AdminSequences} {plan : List UnitOfWork.Outcome}
    (accepted : ((putSettings ctx writes audit).run adminEngine (.start tables sequences) plan).2 =
      .answered (.response 200)) :
    ((putSettings ctx writes audit).run adminEngine
      (.start tables sequences) plan).1.durable.journal = writes ++ [.audit audit] := by
  have ensured : (putSettings ctx writes audit).Ensures adminEngine
      (fun version ending => ending = .answered (.response 200) →
        version.journal = writes ++ [.audit audit]) (.start tables sequences) := by
    apply putSettings_ensures
    · intro ending other answered
      exact absurd answered other
    · intro version ending journal _
      exact journal
  exact Script.run_ensures ensured plan accepted

/-- What a PUT that answers 200 makes of the settings and secrets. -/
theorem putSettings_flat {ctx : SessionContext} {writes : List AdminChange} {audit : AuditLog}
    {tables : AdminTables} {sequences : AdminSequences} {plan : List UnitOfWork.Outcome}
    (accepted : ((putSettings ctx writes audit).run adminEngine (.start tables sequences) plan).2 =
      .answered (.response 200)) :
    flatTables ((putSettings ctx writes audit).run adminEngine
      (.start tables sequences) plan).1.durable.tables =
        (writes ++ [AdminChange.audit audit]).foldl writeFlat (flatTables tables) := by
  have recorded := run_recorded (putSettings ctx writes audit) tables sequences plan
  unfold Recorded at recorded
  rw [putSettings_written accepted] at recorded
  exact recorded

/-- After an accepted PUT the settings and the secrets are what its writes make of them. -/
theorem putSettings_stored {ctx : SessionContext} {writes : List AdminChange} {audit : AuditLog}
    {tables after : AdminTables} {sequences : AdminSequences} {plan : List UnitOfWork.Outcome}
    (accepted : ((putSettings ctx writes audit).run adminEngine (.start tables sequences) plan).2 =
      .answered (.response 200))
    (stored : ((putSettings ctx writes audit).run adminEngine
      (.start tables sequences) plan).1.durable.tables = after) :
    after.systemSettings =
        ((writes ++ [AdminChange.audit audit]).foldl writeFlat (flatTables tables)).systemSettings ∧
      after.systemSecrets =
        ((writes ++ [AdminChange.audit audit]).foldl writeFlat
          (flatTables tables)).systemSecrets := by
  have flat := putSettings_flat accepted
  rw [stored] at flat
  have settings := congrArg FlatTables.systemSettings flat
  have secrets := congrArg FlatTables.systemSecrets flat
  exact ⟨settings, secrets⟩

/-! ## What the writes leave -/

/-- A secret after a PUT: as it was when none is given, gone when an empty one is. -/
def secretAfter (given stored : Option String) : Option String :=
  match given with
  | none => stored
  | some text => orNone text

/-- What a key has after a write. -/
theorem get?_writeKey (dict : Dict String String) (key other : String) (value : Option String) :
    (writeKey dict key value).get? other = if other = key then value else dict.get? other := by
  cases value with
  | some value => exact Dict.get?_set dict key other value
  | none =>
    show (withoutKey dict key).get? other = if other = key then none else dict.get? other
    apply Option.ext
    intro value
    have listed : (withoutKey dict key).get? other = some value ↔
        (other, value) ∈ dict.items ∧ other ≠ key := by
      rw [Dict.get?_eq_some_iff]
      simp [withoutKey]
    rw [listed]
    by_cases same : other = key
    · simp [same]
    · simp [same, Dict.get?_eq_some_iff]

/-- A secret that is given or not writes no setting. -/
theorem secretWrite_settings (secret : String) (given : Option String) (flat : FlatTables) :
    ((secretWrite secret given).foldl writeFlat flat).systemSettings = flat.systemSettings := by
  cases given with
  | none => rfl
  | some text => rfl

/-- An audit row writes no setting. -/
theorem audit_settings (row : AuditLog) (flat : FlatTables) :
    (writeFlat flat (.audit row)).systemSettings = flat.systemSettings := rfl

/-- A setting is written into the settings. -/
theorem setting_settings (key : String) (value : Option String) (flat : FlatTables) :
    (writeFlat flat (.systemSetting key value)).systemSettings =
      writeKey flat.systemSettings key value := rfl

/-- A secret that is given or not, after its write. -/
theorem secretWrite_secrets (secret other : String) (given : Option String) (flat : FlatTables) :
    ((secretWrite secret given).foldl writeFlat flat).systemSecrets.get? other =
      if other = secret then secretAfter given (flat.systemSecrets.get? secret)
      else flat.systemSecrets.get? other := by
  cases given with
  | none =>
    by_cases same : other = secret
    · rw [if_pos same, same]
      rfl
    · rw [if_neg same]
      rfl
  | some text =>
    rw [secretWrite, List.foldl_cons, List.foldl_nil, writeFlat, get?_writeKey]
    rfl

/-- A setting writes no secret. -/
theorem setting_secrets (key : String) (value : Option String) (flat : FlatTables) :
    (writeFlat flat (.systemSetting key value)).systemSecrets = flat.systemSecrets := rfl

/-- An audit row writes no secret. -/
theorem audit_secrets (row : AuditLog) (flat : FlatTables) :
    (writeFlat flat (.audit row)).systemSecrets = flat.systemSecrets := rfl

/-- A secret writes no setting. -/
theorem secret_settings (key : String) (value : Option String) (flat : FlatTables) :
    (writeFlat flat (.systemSecret key value)).systemSettings = flat.systemSettings := rfl

/-- A secret is written into the secrets. -/
theorem secret_secrets (key : String) (value : Option String) (flat : FlatTables) :
    (writeFlat flat (.systemSecret key value)).systemSecrets =
      writeKey flat.systemSecrets key value := rfl

/-! ## Texts that are read -/

/-- A text that is not empty counts as given. -/
theorem given_text {text : String} (given : text ≠ "") :
    (some text).filter (fun value => decide (value ≠ "")) = some text :=
  Option.filter_some_pos (by simpa using given)

/-- A boolean setting is not empty. -/
theorem settingBool_ne_empty (value : Bool) : settingBool value ≠ "" := by
  cases value <;> decide

/-- A text, or what stands for it when it is empty. -/
def orElse (text fallback : String) : String := (orNone text).getD fallback

/-- The reader's text for a stored one. -/
theorem filter_getD_eq_orElse (text fallback : String) :
    ((some text).filter fun value => decide (value ≠ "")).getD fallback = orElse text fallback := by
  by_cases empty : text = ""
  · subst empty
    rfl
  · rw [given_text empty, orElse, orNone, if_neg empty]

/-- A text that is given stands for itself. -/
theorem orElse_of_given {text fallback : String} (given : text ≠ "") :
    orElse text fallback = text := by
  rw [orElse, orNone, if_neg given]
  rfl

/-- A text that stands for itself is given, unless the fallback is empty. -/
theorem orElse_eq_self_iff {text fallback : String} (named : fallback ≠ "") :
    orElse text fallback = text ↔ text ≠ "" := by
  constructor
  · rintro same rfl
    exact named same
  · exact orElse_of_given

/-- A facility or a port is read back. -/
theorem number_read {number : Nat} (inRange : number ≤ 65535) :
    parseInt (toString number) = some (number : Int) := by
  have short : (number : Int).natAbs.repr.length ≤ 4300 := by
    have digits : number.repr.length ≤ 5 :=
      (Nat.length_repr_le_iff (by decide)).mpr (by omega)
    exact digits.trans (by decide)
  have read := parseInt_toString (number : Int)
  rw [if_pos short] at read
  exact read

/-! ## The settings of the forwarder -/

/-- A PUT of the settings over these tables, with each of its statements ending as planned. -/
def putSyslog (dumps : Json → String) (ctx : SessionContext) (tables : AdminTables)
    (sequences : AdminSequences) (payload : SyslogUpdate) (plan : List UnitOfWork.Outcome) :
    Session AdminTables AdminSequences AdminChange × Ending Reply :=
  (updateSyslogConfig dumps ctx payload).run adminEngine (.start tables sequences) plan

section Syslog

variable {dumps : Json → String} {ctx : SessionContext} {tables : AdminTables}
  {sequences : AdminSequences} {payload : SyslogUpdate} {plan : List UnitOfWork.Outcome}

/-- What the forwarder finds after a PUT of its settings. -/
structure SyslogStored (payload : SyslogUpdate) (before after : AdminTables) : Prop where
  /-- `syslog.enabled`. -/
  enabled : after.systemSettings.get? "syslog.enabled" = some (settingBool payload.enabled)
  /-- `syslog.host`. -/
  host : after.systemSettings.get? "syslog.host" = some (strip payload.host)
  /-- `syslog.port`. -/
  port : after.systemSettings.get? "syslog.port" = some (toString payload.port)
  /-- `syslog.protocol`. -/
  protocol : after.systemSettings.get? "syslog.protocol" = some payload.protocol
  /-- `syslog.facility`. -/
  facility : after.systemSettings.get? "syslog.facility" = some (toString payload.facility)
  /-- `syslog.app_name`. -/
  appName : after.systemSettings.get? "syslog.app_name" = some (strip payload.appName)
  /-- `syslog.hostname`. -/
  hostname : after.systemSettings.get? "syslog.hostname" = some (strip payload.hostname)
  /-- `syslog.tls_verify`. -/
  tlsVerify : after.systemSettings.get? "syslog.tls_verify" = some (settingBool payload.tlsVerify)
  /-- `syslog.tls_server_name`. -/
  tlsServerName : after.systemSettings.get? "syslog.tls_server_name" =
    payload.tlsServerName.filter fun name => name ≠ ""
  /-- `syslog.tls_ca_pem`. -/
  tlsCaPem : after.systemSecrets.get? "syslog.tls_ca_pem" =
    secretAfter payload.tlsCaPem (before.systemSecrets.get? "syslog.tls_ca_pem")
  /-- `syslog.tls_client_cert_pem`. -/
  tlsClientCertPem : after.systemSecrets.get? "syslog.tls_client_cert_pem" =
    secretAfter payload.tlsClientCertPem (before.systemSecrets.get? "syslog.tls_client_cert_pem")
  /-- `syslog.tls_client_key_pem`. -/
  tlsClientKeyPem : after.systemSecrets.get? "syslog.tls_client_key_pem" =
    secretAfter payload.tlsClientKeyPem (before.systemSecrets.get? "syslog.tls_client_key_pem")

/-- A PUT of the forwarder's settings stores them. -/
theorem putSyslog_inStore {after : AdminTables}
    (accepted : (putSyslog dumps ctx tables sequences payload plan).2 =
      .answered (.response 200))
    (stored : (putSyslog dumps ctx tables sequences payload plan).1.durable.tables = after) :
    SyslogStored payload tables after := by
  obtain ⟨settings, secrets⟩ := putSettings_stored accepted stored
  constructor
  any_goals
    rw [settings]
    simp only [List.foldl_append, List.foldl_cons, List.foldl_nil, secretWrite_settings,
      audit_settings, setting_settings, get?_writeKey, String.reduceEq, if_false, if_true]
  all_goals
    rw [secrets]
    simp only [List.foldl_append, List.foldl_cons, List.foldl_nil, secretWrite_secrets,
      audit_secrets, setting_secrets, String.reduceEq, if_false, if_true]
    rfl

end Syslog

end TacacsWeb.Verif
