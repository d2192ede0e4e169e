import TacacsWeb.Library.StructuredData
import TacacsWeb.Model.SyslogLines

/-!
# What a line says of its record

A scan of the structured data gives back the values that were put in, whatever they hold: the
action, and each other column that is set and not empty.
-/

namespace TacacsWeb.Verif

open TacacsWeb.Library TacacsWeb.Library.Text TacacsWeb.Library.StructuredData TacacsWeb.Model

/-! ## The statement -/

/-- The columns that are present: texts that are not empty. -/
def presentColumns (columns : List (String × Option String)) : List (String × String) :=
  columns.filterMap fun column =>
    (column.2.filter fun text => text ≠ "").map fun text => (column.1, text)

/-- The columns of an accounting record besides the action, numbers as texts. -/
def acctColumns (record : AccountingRow) : List (String × Option String) :=
  [("user", record.username), ("nas", record.nasIp), ("nac", record.nacIp), ("port", record.port),
    ("service", record.service), ("cmd", record.cmd),
    ("privlvl", record.privLvl.map fun level => toString level),
    ("elapsed", record.elapsedSeconds.map fun seconds => toString seconds),
    ("task", record.taskId)]

/-- The columns of an audit row besides the action, numbers as texts. -/
def auditColumns (row : AuditRow) : List (String × Option String) :=
  [("actor", some row.actorUsernameSnapshot), ("role", some row.actorRole),
    ("auth_method", some row.authMethod), ("target_type", row.targetType),
    ("target_id", row.targetId.map fun target => toString target), ("client_ip", row.clientIp)]

/-- Behind its header and a space, a line has structured data that a scan reads as an element, and
behind that a space and the message. -/
def CarriesData (line header : String) (element : SdElement) (msg : String) : Prop :=
  ∃ data, line.toList = header.toList ++ ' ' :: data ∧ data.head? = some '[' ∧
    scanElement data = some (element, ' ' :: msg.toList)

/-- The line of an accounting record carries these parameters. -/
def CarriesAcct (record : AccountingRow) (cfg : SyslogConfig) (params : List (String × String)) :
    Prop :=
  CarriesData (formatRfc5424 record cfg)
    (syslogHeader (cfg.facility * 8 + severityInfo) record.ts cfg "acct")
    ⟨"acct@tacacs-web", params⟩ (acctMsg record)

/-- The line of an audit row carries these parameters. -/
def CarriesAudit (row : AuditRow) (cfg : SyslogConfig) (params : List (String × String)) : Prop :=
  CarriesData (formatRfc5424Audit row cfg)
    (syslogHeader (cfg.facility * 8 + auditSeverity row) row.ts cfg "audit")
    ⟨"audit@tacacs-web", params⟩ (auditMsg row)

/-! ## The parameters -/

/-- The parameter of a text is its column, if it is present. -/
theorem presentColumns_cons (name : String) (value : Option String)
    (columns : List (String × Option String)) :
    presentColumns ((name, value) :: columns) = ifText name value ++ presentColumns columns := by
  unfold presentColumns ifText
  rw [List.filterMap_cons]
  cases value.filter fun text => text ≠ "" with
  | none => rfl
  | some text => rfl

/-- An integer has some text. -/
theorem toString_int_ne_empty (value : Int) : toString value ≠ "" := by
  intro empty
  have chars := congrArg String.toList empty
  cases value with
  | ofNat value =>
    have digits : Nat.toDigits 10 value = [] := by
      rw [← Nat.toList_repr]
      exact chars
    exact Nat.toDigits_ne_nil digits
  | negSucc value =>
    rw [toList_toString_negSucc] at chars
    cases chars

/-- The parameter of a number is that of its text. -/
theorem ifNumber_eq (name : String) (value : Option Int) :
    ifNumber name value = ifText name (value.map fun number => toString number) := by
  unfold ifNumber ifText
  cases value with
  | none => rfl
  | some number =>
    rw [Option.map_some, Option.map_some,
      Option.filter_some_pos (by simpa using toString_int_ne_empty number)]
    rfl

/-- An accounting record has a parameter for the action and one for every present column. -/
theorem acctParams_eq (record : AccountingRow) :
    acctParams record = ("action", record.action) :: presentColumns (acctColumns record) := by
  simp only [acctParams, acctColumns, presentColumns_cons, ifNumber_eq]
  simp [presentColumns]

/-- An audit row has a parameter for the action and one for every present column. -/
theorem auditParams_eq (row : AuditRow) :
    auditParams row = ("action", row.action) :: presentColumns (auditColumns row) := by
  simp only [auditParams, auditColumns, presentColumns_cons, ifNumber_eq]
  simp [presentColumns]

/-- The parameters of present columns have their names. -/
theorem presentColumns_named {columns : List (String × Option String)}
    (named : ∀ column ∈ columns, IsSdName column.1.toList) :
    ∀ param ∈ presentColumns columns, IsSdName param.1.toList := by
  intro param listed
  obtain ⟨column, present, given⟩ := List.mem_filterMap.mp listed
  obtain ⟨text, _, same⟩ := Option.map_eq_some_iff.mp given
  rw [← same]
  exact named column present

/-! ## The structured data -/

/-- A parameter is written as the scanner expects it. -/
theorem toList_sdParam (name value : String) :
    (sdParam name value).toList = writeParam (name, value) := by
  simp only [sdParam, String.toList_append, sdEscape, replaceChar_escape, writeParam]
  rfl

/-- Structured data with a parameter is written as the scanner expects it. -/
theorem toList_structuredData (sdId : String) (param : String × String)
    (params : List (String × String)) :
    (structuredData sdId (param :: params)).toList =
      (SdElement.mk sdId (param :: params)).write := by
  have parts : ' ' :: [' '].intercalate
      ((param :: params).map fun other => (sdParam other.1 other.2).toList) =
        (param :: params).flatMap fun other => ' ' :: writeParam other := by
    rw [List.map_cons, intercalate_cons, List.flatMap_map, List.flatMap_cons]
    simp only [toList_sdParam]
    rfl
  unfold structuredData SdElement.write
  simp only [String.toList_append, String.toList_ofList, ← parts]
  simp

/-- A line with structured data carries it. -/
theorem carriesData_of {header sdId msg : String} {param : String × String}
    {params : List (String × String)} (identified : IsSdName sdId.toList)
    (named : ∀ other ∈ param :: params, IsSdName other.1.toList) :
    CarriesData (header ++ " " ++ structuredData sdId (param :: params) ++ " " ++ msg) header
      ⟨sdId, param :: params⟩ msg := by
  refine ⟨(SdElement.mk sdId (param :: params)).write ++ ' ' :: msg.toList, ?_, rfl, ?_⟩
  · simp [toList_structuredData]
  · exact scanElement_write identified named (' ' :: msg.toList)

/-! ## The lines -/

/-- The name of the action is one. -/
theorem action_named : IsSdName "action".toList := by decide

/-- The line of an accounting record carries the action and every present column. -/
theorem acct_carries (record : AccountingRow) (cfg : SyslogConfig) :
    CarriesAcct record cfg
      (("action", record.action) :: presentColumns (acctColumns record)) := by
  have columns : ∀ column ∈ acctColumns record, IsSdName column.1.toList := by
    simp only [acctColumns, List.forall_mem_cons]
    decide
  have named := presentColumns_named columns
  unfold CarriesAcct formatRfc5424
  rw [acctParams_eq]
  exact carriesData_of (by decide) (List.forall_mem_cons.mpr ⟨action_named, named⟩)

/-- The line of an audit row carries the action and every present column. -/
theorem audit_carries (row : AuditRow) (cfg : SyslogConfig) :
    CarriesAudit row cfg (("action", row.action) :: presentColumns (auditColumns row)) := by
  have columns : ∀ column ∈ auditColumns row, IsSdName column.1.toList := by
    simp only [auditColumns, List.forall_mem_cons]
    decide
  have named := presentColumns_named columns
  unfold CarriesAudit formatRfc5424Audit
  rw [auditParams_eq]
  exact carriesData_of (by decide) (List.forall_mem_cons.mpr ⟨action_named, named⟩)

/-- A scan of the structured data of a line recovers the action and every present column, each with
its value, and ends before a space and the message. -/
theorem structuredData_recovered (cfg : SyslogConfig) :
    (∀ record : AccountingRow, CarriesAcct record cfg
      (("action", record.action) :: presentColumns (acctColumns record))) ∧
    ∀ row : AuditRow, CarriesAudit row cfg
      (("action", row.action) :: presentColumns (auditColumns row)) :=
  ⟨fun record => acct_carries record cfg, fun row => audit_carries row cfg⟩

/-- A line carries one element. -/
theorem CarriesData.unique {line header msg otherMsg : String} {element other : SdElement}
    (carries : CarriesData line header element msg)
    (carriesOther : CarriesData line header other otherMsg) : element = other := by
  obtain ⟨data, split, _, scanned⟩ := carries
  obtain ⟨otherData, otherSplit, _, otherScanned⟩ := carriesOther
  have same : ' ' :: data = ' ' :: otherData :=
    List.append_cancel_left (split.symm.trans otherSplit)
  rw [(List.cons.inj same).2, otherScanned] at scanned
  exact (congrArg Prod.fst (Option.some.inj scanned)).symm

/-- The first moment of a year. -/
def newYear : DateTime where
  year := 2026
  month := 1
  day := 1
  hour := 0
  minute := 0
  second := 0
  microsecond := 0
  aware := true
  yearRange := by decide
  monthRange := by decide
  dayRange := by decide
  hourRange := by decide
  minuteRange := by decide
  secondRange := by decide
  microsecondRange := by decide

/-- A record with an empty action and no other column. -/
def emptyAction : AccountingRow :=
  ⟨newYear, "", none, none, none, none, none, none, none, none, none⟩

/-- The configuration of a new installation. -/
def unsetSyslog : SyslogConfig := loadSyslogConfig .ascii ∅ ∅

/-- An action is carried even where it is empty. -/
theorem emptyAction_carried :
    ¬∀ (record : AccountingRow) (cfg : SyslogConfig), CarriesAcct record cfg
      (presentColumns (("action", some record.action) :: acctColumns record)) := by
  intro claimed
  have elements := (claimed emptyAction unsetSyslog).unique (acct_carries emptyAction unsetSyslog)
  have params := congrArg SdElement.params elements
  revert params
  decide

end TacacsWeb.Verif
