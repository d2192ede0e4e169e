import TacacsWeb.Model.JsonText
import TacacsWeb.Verif.StoredSettings
import TacacsWeb.Verif.SyslogParams

/-!
# The header of a line

The fields of a header stand between single spaces and nothing in them is escaped. So a line can be
taken apart exactly when the host name and the application name that the settings were given are
names that a header may hold; the settings accept others too.
-/

namespace TacacsWeb.Verif

open TacacsWeb.Library TacacsWeb.Library.Text TacacsWeb.Library.UnitOfWork
  TacacsWeb.Library.StructuredData TacacsWeb.Model

/-! ## The statement -/

/-- A name that a header may hold: printable ASCII without spaces, and not empty. -/
def IsHeaderName (name : String) : Prop :=
  name ≠ "" ∧ ∀ char ∈ name.toList, 33 ≤ char.toNat ∧ char.toNat ≤ 126

/-- A number in so many decimal digits. -/
def IsDigits (width value : Nat) (digits : List Char) : Prop :=
  digits.length = width ∧ (∀ char ∈ digits, char.isDigit = true) ∧
    Nat.ofDigitChars 10 digits 0 = value

/-- The RFC 3339 text of a time in UTC, with milliseconds. -/
def IsTimestamp (ts : DateTime) (text : List Char) : Prop :=
  ∃ year month day hour minute second millisecond : List Char,
    text = year ++ '-' :: month ++ '-' :: day ++ 'T' :: hour ++ ':' :: minute ++ ':' :: second ++
      '.' :: millisecond ++ ['Z'] ∧
    IsDigits 4 ts.year year ∧ IsDigits 2 ts.month month ∧ IsDigits 2 ts.day day ∧
    IsDigits 2 ts.hour hour ∧ IsDigits 2 ts.minute minute ∧ IsDigits 2 ts.second second ∧
    IsDigits 3 (ts.microsecond / 1000) millisecond

/-- What a line is to be made of. -/
structure LineParts where
  /-- The severity of the event. -/
  severity : Int
  /-- Its time. -/
  ts : DateTime
  /-- The MSGID. -/
  msgId : String
  /-- The structured data. -/
  element : SdElement
  /-- The message. -/
  msg : String

/-- Split at spaces, a line gives the header with the names of the settings, and then the structured
data. -/
def HeaderWellFormed (payload : SyslogUpdate) (parts : LineParts) (line : String) : Prop :=
  ∃ (pri : Int) (time : List Char) (rest : List (List Char)),
    line.toList.splitOn ' ' =
      ('<' :: (toString pri).toList ++ ['>', '1']) :: time :: (strip payload.hostname).toList ::
        (strip payload.appName).toList :: ['-'] :: parts.msgId.toList :: rest ∧
    pri = payload.facility * 8 + parts.severity ∧ 0 ≤ pri ∧ pri ≤ 191 ∧
    IsTimestamp parts.ts time ∧
    IsHeaderName (strip payload.hostname) ∧ IsHeaderName (strip payload.appName) ∧
    scanElement ([' '].intercalate rest) = some (parts.element, ' ' :: parts.msg.toList)

/-- The parts of the line of an accounting record. -/
def acctParts (record : AccountingRow) : LineParts :=
  ⟨severityInfo, record.ts, "acct", ⟨"acct@tacacs-web", acctParams record⟩, acctMsg record⟩

/-- The parts of the line of an audit row. -/
def auditParts (row : AuditRow) : LineParts :=
  ⟨auditSeverity row, row.ts, "audit", ⟨"audit@tacacs-web", auditParams row⟩, auditMsg row⟩

/-- Every line that a configuration gives has a well-formed header. -/
def HeadersWellFormed (payload : SyslogUpdate) (cfg : SyslogConfig) : Prop :=
  (∀ record : AccountingRow,
      HeaderWellFormed payload (acctParts record) (formatRfc5424 record cfg)) ∧
    ∀ row : AuditRow, HeaderWellFormed payload (auditParts row) (formatRfc5424Audit row cfg)

/-- The configuration that is loaded after it. -/
def configAfter (fold : CaseFolding)
    (run : Session AdminTables AdminSequences AdminChange × Ending Reply) : SyslogConfig :=
  loadSyslogConfig fold run.1.durable.tables.systemSettings run.1.durable.tables.systemSecrets

/-! ## Times -/

/-- A number that is small enough is written in so many digits. -/
theorem zeroFilled_isDigits {width value : Nat} (positive : 0 < width)
    (small : value < 10 ^ width) : IsDigits width value (zeroFilled width value).toList := by
  have short : (Nat.toDigits 10 value).length ≤ width :=
    (Nat.length_toDigits_le_iff (by decide) positive).mpr small
  unfold zeroFilled
  rw [String.toList_ofList]
  refine ⟨?_, ?_, ?_⟩
  · rw [List.length_append, List.length_replicate]
    omega
  · intro char listed
    cases List.mem_append.mp listed with
    | inl zero =>
      rw [(List.mem_replicate.mp zero).2]
      rfl
    | inr digit => exact Nat.isDigit_of_mem_toDigits (by decide) (by decide) digit
  · rw [Nat.ofDigitChars_append, Nat.ofDigitChars_replicate_zero, Nat.mul_zero]
    exact Nat.ofDigitChars_ten_toDigits

/-- A month has 31 days at most. -/
theorem daysInMonth_le (year month : Nat) : daysInMonth year month ≤ 31 := by
  unfold daysInMonth
  split
  · split <;> omega
  · split <;> omega

/-- The text of a time is that of RFC 3339. -/
theorem timestamp_isTimestamp (ts : DateTime) : IsTimestamp ts (timestamp ts).toList := by
  have days := daysInMonth_le ts.year ts.month
  have year := ts.yearRange
  have month := ts.monthRange
  have day := ts.dayRange
  have hour := ts.hourRange
  have minute := ts.minuteRange
  have second := ts.secondRange
  have microsecond := ts.microsecondRange
  refine ⟨_, _, _, _, _, _, _, ?_,
    @zeroFilled_isDigits 4 ts.year (by decide) (by omega),
    @zeroFilled_isDigits 2 ts.month (by decide) (by omega),
    @zeroFilled_isDigits 2 ts.day (by decide) (by omega),
    @zeroFilled_isDigits 2 ts.hour (by decide) (by omega),
    @zeroFilled_isDigits 2 ts.minute (by decide) (by omega),
    @zeroFilled_isDigits 2 ts.second (by decide) (by omega),
    @zeroFilled_isDigits 3 (ts.microsecond / 1000) (by decide) (by omega)⟩
  simp [timestamp, DateTime.asUtc]

/-- Digits hold no space. -/
theorem IsDigits.no_space {width value : Nat} {digits : List Char}
    (written : IsDigits width value digits) : ' ' ∉ digits := by
  intro listed
  have digit := written.2.1 ' ' listed
  revert digit
  decide

/-- The text of a time holds no space. -/
theorem IsTimestamp.no_space {ts : DateTime} {text : List Char} (written : IsTimestamp ts text) :
    ' ' ∉ text := by
  obtain ⟨year, month, day, hour, minute, second, millisecond, whole, isYear, isMonth, isDay,
    isHour, isMinute, isSecond, isMillisecond⟩ := written
  rw [whole]
  simp [isYear.no_space, isMonth.no_space, isDay.no_space, isHour.no_space, isMinute.no_space,
    isSecond.no_space, isMillisecond.no_space]

/-! ## Splitting a line -/

/-- A name for a header holds no space. -/
theorem IsHeaderName.no_space {name : String} (named : IsHeaderName name) :
    ' ' ∉ name.toList := by
  intro listed
  have printable := named.2 ' ' listed
  have code : ' '.toNat = 32 := rfl
  omega

/-- The text of an integer holds no space. -/
theorem toString_no_space (value : Int) : ' ' ∉ (toString value).toList := by
  intro listed
  cases mem_toString_int listed with
  | inl sign => exact absurd sign (by decide)
  | inr digit => exact absurd digit (by decide)

/-- A header without spaces in its fields splits into them. -/
theorem splitOn_header {pri : Int} {ts : DateTime} {cfg : SyslogConfig} {msgId : String}
    (hostname : ' ' ∉ cfg.hostname.toList) (appName : ' ' ∉ cfg.appName.toList)
    (id : ' ' ∉ msgId.toList) (data : List Char) :
    ((syslogHeader pri ts cfg msgId).toList ++ ' ' :: data).splitOn ' ' =
      ('<' :: (toString pri).toList ++ ['>', '1']) :: (timestamp ts).toList ::
        cfg.hostname.toList :: cfg.appName.toList :: ['-'] :: msgId.toList :: data.splitOn ' ' := by
  have shape : (syslogHeader pri ts cfg msgId).toList ++ ' ' :: data =
      ('<' :: (toString pri).toList ++ ['>', '1']) ++ ' ' :: ((timestamp ts).toList ++
        ' ' :: (cfg.hostname.toList ++ ' ' :: (cfg.appName.toList ++
          ' ' :: (['-'] ++ ' ' :: (msgId.toList ++ ' ' :: data))))) := by
    simp [syslogHeader]
  have number := toString_no_space pri
  have version : ' ' ∉ '<' :: (toString pri).toList ++ ['>', '1'] := by
    simpa using number
  rw [shape, List.splitOn_append_cons_self_of_not_mem version,
    List.splitOn_append_cons_self_of_not_mem (timestamp_isTimestamp ts).no_space,
    List.splitOn_append_cons_self_of_not_mem hostname,
    List.splitOn_append_cons_self_of_not_mem appName,
    List.splitOn_append_cons_self_of_not_mem (by decide),
    List.splitOn_append_cons_self_of_not_mem id]

/-- A line that carries its data splits as it should when the names are fit for a header. -/
theorem headerWellFormed_of {payload : SyslogUpdate} {parts : LineParts} {cfg : SyslogConfig}
    {line : String} (hostname : cfg.hostname = strip payload.hostname)
    (appName : cfg.appName = strip payload.appName)
    (hostNamed : IsHeaderName (strip payload.hostname))
    (appNamed : IsHeaderName (strip payload.appName))
    (id : ' ' ∉ parts.msgId.toList) (severe : 0 ≤ parts.severity ∧ parts.severity ≤ 7)
    (carries : CarriesData line
      (syslogHeader (payload.facility * 8 + parts.severity) parts.ts cfg parts.msgId)
      parts.element parts.msg) : HeaderWellFormed payload parts line := by
  obtain ⟨data, split, _, scanned⟩ := carries
  have hostSpace : ' ' ∉ cfg.hostname.toList := hostname ▸ hostNamed.no_space
  have appSpace : ' ' ∉ cfg.appName.toList := appName ▸ appNamed.no_space
  have fields := @splitOn_header (payload.facility * 8 + parts.severity) parts.ts cfg parts.msgId
    hostSpace appSpace id data
  have range := payload.facilityRange
  refine ⟨_, _, data.splitOn ' ', ?_, rfl, ?_, ?_, timestamp_isTimestamp parts.ts, hostNamed,
    appNamed, ?_⟩
  · rw [split, fields, hostname, appName]
  · omega
  · omega
  · rw [List.intercalate_splitOn, scanned]

/-! ## The settings -/

section Configuration

variable {dumps : Json → String} {ctx : SessionContext} {tables : AdminTables}
  {sequences : AdminSequences} {payload : SyslogUpdate} {plan : List UnitOfWork.Outcome}

/-- The configuration that is loaded after a PUT that answers 200: an empty name gives way to the
default. -/
theorem configAfter_eq {fold : CaseFolding}
    (accepted : (putSyslog dumps ctx tables sequences payload plan).2 =
      .answered (.response 200)) {cfg : SyslogConfig}
    (loaded : configAfter fold (putSyslog dumps ctx tables sequences payload plan) = cfg) :
    cfg.facility = payload.facility ∧
      (strip payload.hostname ≠ "" → cfg.hostname = strip payload.hostname) ∧
      (strip payload.appName ≠ "" → cfg.appName = strip payload.appName) := by
  have stored := putSyslog_inStore accepted rfl
  have range := payload.facilityRange
  have read := number_read (show payload.facility ≤ 65535 by omega)
  have text : toString payload.facility ≠ "" := toString_int_ne_empty payload.facility
  rw [← loaded]
  refine ⟨?_, fun given => ?_, fun given => ?_⟩
  · simp only [configAfter, loadSyslogConfig, stored.facility]
    rw [given_text text, Option.getD_some, read]
    simp only
    omega
  · simp only [configAfter, loadSyslogConfig, stored.hostname]
    rw [given_text given, Option.getD_some]
  · simp only [configAfter, loadSyslogConfig, stored.appName]
    rw [given_text given, Option.getD_some]

/-! ## The result -/

/-- The severity of an audit row is one. -/
theorem auditSeverity_range (row : AuditRow) : 0 ≤ auditSeverity row ∧ auditSeverity row ≤ 7 := by
  unfold auditSeverity
  split <;> decide

/-- After a PUT that answers 200, every line has a header that is well formed exactly when the names
that were given are, without the spaces around them, names that a header may hold. -/
theorem headersWellFormed_iff {fold : CaseFolding}
    (accepted : (putSyslog dumps ctx tables sequences payload plan).2 =
      .answered (.response 200)) :
    HeadersWellFormed payload
        (configAfter fold (putSyslog dumps ctx tables sequences payload plan)) ↔
      IsHeaderName (strip payload.hostname) ∧ IsHeaderName (strip payload.appName) := by
  obtain ⟨facility, hostname, appName⟩ := configAfter_eq accepted (Eq.refl (configAfter fold _))
  constructor
  · intro wellFormed
    obtain ⟨_, _, _, _, _, _, _, _, hostNamed, appNamed, _⟩ := wellFormed.1 emptyAction
    exact ⟨hostNamed, appNamed⟩
  · intro named
    have hostSame := hostname named.1.1
    have appSame := appName named.2.1
    constructor
    · intro record
      have carries := acct_carries record
        (configAfter fold (putSyslog dumps ctx tables sequences payload plan))
      rw [← acctParams_eq] at carries
      unfold CarriesAcct at carries
      rw [facility] at carries
      have id : ' ' ∉ "acct".toList := by decide
      have severe : 0 ≤ severityInfo ∧ severityInfo ≤ 7 := by decide
      exact headerWellFormed_of hostSame appSame named.1 named.2 id severe carries
    · intro row
      have carries := audit_carries row
        (configAfter fold (putSyslog dumps ctx tables sequences payload plan))
      rw [← auditParams_eq] at carries
      unfold CarriesAudit at carries
      rw [facility] at carries
      have id : ' ' ∉ "audit".toList := by decide
      have severe := auditSeverity_range row
      exact headerWellFormed_of hostSame appSame named.1 named.2 id severe carries

end Configuration

/-- The settings with some host name and the other defaults. -/
def senderNamed (hostname : String) (length : 1 ≤ hostname.length ∧ hostname.length ≤ 255) :
    SyslogUpdate where
  enabled := true
  host := "siem"
  port := 6514
  protocol := "tls"
  facility := 16
  appName := "tacacs-web"
  hostname := hostname
  tlsVerify := true
  tlsServerName := none
  tlsCaPem := none
  tlsClientCertPem := none
  tlsClientKeyPem := none
  hostLength := by decide
  portRange := by decide
  protocolKnown := by decide
  facilityRange := by decide
  appNameLength := by decide
  hostnameLength := length
  tlsServerNameLength := nofun

/-- An admin gives the sender a name with spaces around it. -/
theorem headersWellFormed_trimmed :
    HeadersWellFormed (senderNamed " fw1 " (by decide))
      (configAfter .ascii (putSyslog Json.dumps adminAtBrowser oneOfEach ⟨2, 2, 2, 2⟩
        (senderNamed " fw1 " (by decide)) [])) :=
  (@headersWellFormed_iff Json.dumps adminAtBrowser oneOfEach ⟨2, 2, 2, 2⟩
    (senderNamed " fw1 " (by decide)) [] .ascii (by decide +kernel)).mpr
    ⟨⟨by decide +kernel, forall_of_all (by decide +kernel)⟩,
      ⟨by decide +kernel, forall_of_all (by decide +kernel)⟩⟩

/-- A name with a space inside is accepted, and the lines are not well formed. -/
theorem innerSpace_not_wellFormed :
    ¬∀ (ctx : SessionContext) (tables : AdminTables) (sequences : AdminSequences)
      (payload : SyslogUpdate) (plan : List UnitOfWork.Outcome),
        (putSyslog Json.dumps ctx tables sequences payload plan).2 = .answered (.response 200) →
          HeadersWellFormed payload
            (configAfter .ascii (putSyslog Json.dumps ctx tables sequences payload plan)) := by
  intro claimed
  have wellFormed := claimed adminAtBrowser oneOfEach ⟨2, 2, 2, 2⟩
    (senderNamed "core fw" (by decide)) [] (by decide +kernel)
  obtain ⟨_, _, _, _, _, _, _, _, hostNamed, _, _⟩ := wellFormed.1 emptyAction
  have listed : ' ' ∈ (strip "core fw").toList := by decide +kernel
  exact hostNamed.no_space listed

end TacacsWeb.Verif
