import TacacsWeb.Library.Dict
import TacacsWeb.Library.IntText
import TacacsWeb.Library.OctetCounting
import TacacsWeb.Library.Utf8
import TacacsWeb.Model.Schema

/-!
# The lines that are forwarded

The formatters, the configuration and the transport of `app.syslog.forwarder`: an accounting record
or an audit row becomes one RFC 5424 line, and the lines of a batch go out behind their lengths on
one stream, or one in a datagram. What is sent is what goes out when no operation of the transport
raises.
-/

namespace TacacsWeb.Model

open TacacsWeb.Library TacacsWeb.Library.Text

/-! ## Times -/

/-- A year has a 29th of February. -/
def isLeapYear (year : Nat) : Bool := year % 4 = 0 && (year % 100 ≠ 0 || year % 400 = 0)

/-- The days of a month. -/
def daysInMonth (year month : Nat) : Nat :=
  if month = 2 then if isLeapYear year then 29 else 28
  else if month = 4 ∨ month = 6 ∨ month = 9 ∨ month = 11 then 30
  else 31

/-- A `datetime`, naive or with the time zone UTC, in which the driver reads stored times. -/
structure DateTime where
  /-- The year. -/
  year : Nat
  /-- The month. -/
  month : Nat
  /-- The day of the month. -/
  day : Nat
  /-- The hour. -/
  hour : Nat
  /-- The minute. -/
  minute : Nat
  /-- The second. -/
  second : Nat
  /-- The microsecond. -/
  microsecond : Nat
  /-- `tzinfo` is UTC, and not none. -/
  aware : Bool
  /-- `MINYEAR` and `MAXYEAR`. -/
  yearRange : 1 ≤ year ∧ year ≤ 9999
  /-- A year has twelve months. -/
  monthRange : 1 ≤ month ∧ month ≤ 12
  /-- A month has so many days. -/
  dayRange : 1 ≤ day ∧ day ≤ daysInMonth year month
  /-- A day has 24 hours. -/
  hourRange : hour ≤ 23
  /-- An hour has 60 minutes. -/
  minuteRange : minute ≤ 59
  /-- A minute has 60 seconds. -/
  secondRange : second ≤ 59
  /-- A second has a million microseconds. -/
  microsecondRange : microsecond ≤ 999999
deriving DecidableEq

/-- `replace(tzinfo=UTC)` of a naive time, `astimezone(UTC)` of one in UTC. -/
def DateTime.asUtc (ts : DateTime) : DateTime := { ts with aware := true }

/-- A number in decimal digits, filled up with zeros to a width. -/
def zeroFilled (width value : Nat) : String :=
  let digits := Nat.toDigits 10 value
  String.ofList (List.replicate (width - digits.length) '0' ++ digits)

/-- `strftime("%Y-%m-%dT%H:%M:%S.")`, the milliseconds and `Z`. -/
def timestamp (ts : DateTime) : String :=
  let ts := ts.asUtc
  zeroFilled 4 ts.year ++ "-" ++ zeroFilled 2 ts.month ++ "-" ++ zeroFilled 2 ts.day ++ "T" ++
    zeroFilled 2 ts.hour ++ ":" ++ zeroFilled 2 ts.minute ++ ":" ++ zeroFilled 2 ts.second ++ "." ++
    zeroFilled 3 (ts.microsecond / 1000) ++ "Z"

/-! ## The configuration -/

/-- `SyslogConfig`. -/
structure SyslogConfig where
  /-- Whether records are forwarded. -/
  enabled : Bool
  /-- The receiver. -/
  host : String
  /-- Its port. -/
  port : Int
  /-- `udp`, `tcp` or `tls`. -/
  protocol : String
  /-- The syslog facility. -/
  facility : Int
  /-- The name of the sender. -/
  appName : String
  /-- The host name of the sender. -/
  hostname : String
  /-- Whether the certificate of the receiver is checked. -/
  tlsVerify : Bool
  /-- The name the certificate must have. -/
  tlsServerName : Option String
  /-- The CA. -/
  tlsCaPem : Option String
  /-- The client certificate. -/
  tlsClientCertPem : Option String
  /-- The client key. -/
  tlsClientKeyPem : Option String
deriving DecidableEq

/-- `DEFAULT_FACILITY`. -/
def defaultFacility : Int := 16

/-- `load_config`. -/
def loadSyslogConfig (fold : CaseFolding) (systemSettings systemSecrets : Dict String String) :
    SyslogConfig :=
  let readSetting := fun key default =>
    ((systemSettings.get? key).filter fun value => value ≠ "").getD default
  let protocolRaw := fold.python (readSetting "syslog.protocol" "tls")
  { enabled := fold.python (readSetting "syslog.enabled" "false") = "true"
    host := readSetting "syslog.host" ""
    port := (parseInt (readSetting "syslog.port" "6514")).getD 6514
    protocol :=
      if protocolRaw = "tls" then "tls" else if protocolRaw = "udp" then "udp" else "tcp"
    facility :=
      match parseInt (readSetting "syslog.facility" (toString defaultFacility)) with
      | some facility => max 0 (min 23 facility)
      | none => defaultFacility
    appName := readSetting "syslog.app_name" "tacacs-web"
    hostname := readSetting "syslog.hostname" "tacacs-web"
    tlsVerify := fold.python (readSetting "syslog.tls_verify" "true") = "true"
    tlsServerName := systemSettings.get? "syslog.tls_server_name"
    tlsCaPem := systemSecrets.get? "syslog.tls_ca_pem"
    tlsClientCertPem := systemSecrets.get? "syslog.tls_client_cert_pem"
    tlsClientKeyPem := systemSecrets.get? "syslog.tls_client_key_pem" }

/-- What `_process_one_batch` asks before it sends anything. -/
def SyslogConfig.configured (cfg : SyslogConfig) : Bool := cfg.enabled && cfg.host ≠ ""

/-! ## The formatters -/

/-- `SEVERITY_INFO`. -/
def severityInfo : Int := 6

/-- `SEVERITY_WARNING`. -/
def severityWarning : Int := 4

/-- `_WARNING_ACTIONS`. -/
def warningActions : List String :=
  ["auth.login_failed", "auth.session_expired", "tacacs.authn_failed", "tacacs.authz_failed",
    "ldap_sync.test_failed", "ldap_sync.run_failed", "syslog.test_failed"]

/-- `_sd_escape`. -/
def sdEscape (value : String) : String :=
  replaceChar ']' "\\]" (replaceChar '"' "\\\"" (replaceChar '\\' "\\\\" value))

/-- `_sd_param`. -/
def sdParam (name value : String) : String := name ++ "=\"" ++ sdEscape value ++ "\""

/-- The name and value of a parameter for a text, if it is set and not empty. -/
def ifText (name : String) (value : Option String) : List (String × String) :=
  ((value.filter fun text => text ≠ "").map fun text => (name, text)).toList

/-- The name and value of a parameter for a number, if it is set. -/
def ifNumber (name : String) (value : Option Int) : List (String × String) :=
  (value.map fun number => (name, toString number)).toList

/-- The structured data with an id and parameters. -/
def structuredData (sdId : String) (params : List (String × String)) : String :=
  let sdParts := params.map fun param => (sdParam param.1 param.2).toList
  "[" ++ sdId ++ " " ++ String.ofList ([' '].intercalate sdParts) ++ "]"

/-- The header of a line. -/
def syslogHeader (pri : Int) (ts : DateTime) (cfg : SyslogConfig) (msgId : String) : String :=
  "<" ++ toString pri ++ ">1 " ++ timestamp ts ++ " " ++ cfg.hostname ++ " " ++ cfg.appName ++
    " - " ++ msgId

/-- A stored row of `accounting_record`, as far as a line tells of it. -/
structure AccountingRow where
  /-- When the event happened. -/
  ts : DateTime
  /-- The kind of record. -/
  action : String
  /-- The login name. -/
  username : Option String
  /-- The NAS address. -/
  nasIp : Option String
  /-- The address of the client. -/
  nacIp : Option String
  /-- The port of the session. -/
  port : Option String
  /-- The `service` attribute. -/
  service : Option String
  /-- The `cmd` attribute. -/
  cmd : Option String
  /-- The `priv-lvl` attribute. -/
  privLvl : Option Int
  /-- The `elapsed_time` attribute. -/
  elapsedSeconds : Option Int
  /-- The id that the records of a session share. -/
  taskId : Option String
deriving DecidableEq

/-- The parameters of an accounting record. -/
def acctParams (record : AccountingRow) : List (String × String) :=
  [("action", record.action)] ++ ifText "user" record.username ++ ifText "nas" record.nasIp ++
    ifText "nac" record.nacIp ++ ifText "port" record.port ++ ifText "service" record.service ++
    ifText "cmd" record.cmd ++ ifNumber "privlvl" record.privLvl ++
    ifNumber "elapsed" record.elapsedSeconds ++ ifText "task" record.taskId

/-- The message of an accounting record. -/
def acctMsg (record : AccountingRow) : String :=
  let msg := (record.cmd.filter fun text => text ≠ "").getD ("action=" ++ record.action)
  match record.username.filter fun text => text ≠ "" with
  | some username => username ++ ": " ++ msg
  | none => msg

/-- `format_rfc5424`. -/
def formatRfc5424 (record : AccountingRow) (cfg : SyslogConfig) : String :=
  let pri := cfg.facility * 8 + severityInfo
  let sd := structuredData "acct@tacacs-web" (acctParams record)
  syslogHeader pri record.ts cfg "acct" ++ " " ++ sd ++ " " ++ acctMsg record

/-- A stored row of `audit_log`, as far as a line tells of it. -/
structure AuditRow where
  /-- When it happened. -/
  ts : DateTime
  /-- The stored code of what was done. -/
  action : String
  /-- The name the actor used. -/
  actorUsernameSnapshot : String
  /-- The role the actor had. -/
  actorRole : String
  /-- How the actor was authenticated. -/
  authMethod : String
  /-- The kind of object acted on. -/
  targetType : Option String
  /-- The object acted on. -/
  targetId : Option Int
  /-- The address the request came from. -/
  clientIp : Option String
  /-- Free text. -/
  summary : Option String
deriving DecidableEq

/-- The parameters of an audit row. -/
def auditParams (row : AuditRow) : List (String × String) :=
  [("action", row.action)] ++ ifText "actor" (some row.actorUsernameSnapshot) ++
    ifText "role" (some row.actorRole) ++ ifText "auth_method" (some row.authMethod) ++
    ifText "target_type" row.targetType ++ ifNumber "target_id" row.targetId ++
    ifText "client_ip" row.clientIp

/-- The message of an audit row. -/
def auditMsg (row : AuditRow) : String :=
  let summary := (row.summary.filter fun text => text ≠ "").getD row.action
  if row.actorUsernameSnapshot ≠ "" then row.actorUsernameSnapshot ++ ": " ++ summary else summary

/-- The severity of an audit row. -/
def auditSeverity (row : AuditRow) : Int :=
  if row.action ∈ warningActions then severityWarning else severityInfo

/-- `format_rfc5424_audit`. -/
def formatRfc5424Audit (row : AuditRow) (cfg : SyslogConfig) : String :=
  let pri := cfg.facility * 8 + auditSeverity row
  let sd := structuredData "audit@tacacs-web" (auditParams row)
  syslogHeader pri row.ts cfg "audit" ++ " " ++ sd ++ " " ++ auditMsg row

/-! ## The transport -/

/-- What `_send_lines` hands to its socket. -/
inductive Transmission where
  /-- The arguments of `sendto`, over UDP. -/
  | datagrams (payloads : List (List UInt8))
  /-- The arguments of `sendall`, over TCP or TLS. -/
  | stream (tls : Bool) (frames : List (List UInt8))
deriving DecidableEq

/-- `line.encode("utf-8")`. -/
def encodeLine (line : String) : List UInt8 := Utf8.encode line.toList

/-- `UDP_MAX_BYTES`. -/
def udpMaxBytes : Nat := 8000

/-- The datagram of a line: a long one is cut off. -/
def datagram (line : String) : List UInt8 :=
  let payload := encodeLine line
  if payload.length > udpMaxBytes then
    payload.take (udpMaxBytes - 14) ++ Utf8.encode "...[truncated]".toList
  else payload

/-- `_send_lines`, or the text of its `RuntimeError`. -/
def sendLines (cfg : SyslogConfig) (lines : List String) : Except String Transmission :=
  if cfg.host = "" then .error "syslog.host is not configured"
  else if cfg.protocol = "udp" then .ok (.datagrams (lines.map datagram))
  else .ok (.stream (cfg.protocol = "tls") (lines.map fun line =>
    OctetCounting.frame (encodeLine line)))

end TacacsWeb.Model
