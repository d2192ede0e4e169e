import TacacsWeb.Model.AuditedOperations
import TacacsWeb.Verif.AdminAtomicity
import TacacsWeb.Verif.SyncFailures

/-!
# Changes and their audit rows

Whether a change and its audit row become durable together. The requests and the settings stage
both in one transaction, so no cut comes between them. The manual sync run and the command commit
the change first; the condition under which they still keep the two together is exact.
-/

namespace TacacsWeb.Verif

open TacacsWeb.Library.UnitOfWork TacacsWeb.Model

/-! ## The statement -/

/-- Some change other than an audit row is committed. -/
def ChangeDurable (version : Version AdminTables AdminChange) : Prop :=
  ∃ change ∈ version.journal, change.isAudit = false

instance (version : Version AdminTables AdminChange) : Decidable (ChangeDurable version) :=
  inferInstanceAs (Decidable (∃ change ∈ version.journal, change.isAudit = false))

/-- An audit row is committed. -/
def AuditDurable (version : Version AdminTables AdminChange) : Prop :=
  ∃ change ∈ version.journal, change.isAudit = true

instance (version : Version AdminTables AdminChange) : Decidable (AuditDurable version) :=
  inferInstanceAs (Decidable (∃ change ∈ version.journal, change.isAudit = true))

/-- The change is durable if and only if an audit row is. -/
def Together (version : Version AdminTables AdminChange) : Prop :=
  ChangeDurable version ↔ AuditDurable version

/-- An operation from some tables under a plan. -/
def ended (host : AdminHost) (operation : AuditedOperation) (tables : AdminTables)
    (sequences : AdminSequences) (plan : List Outcome) : Version AdminTables AdminChange :=
  ((operation.script host).run adminEngine (.start tables sequences) plan).1.durable

/-- The audit row of a run that went through fits: what the request says of the caller does, and so
does the time it took. -/
def syncAuditFits (host : SyncHost) (ctx : SessionContext) : Bool :=
  (runAudit ctx .ldapSyncRunSucceeded host.took).fits

/-- The plan cuts an operation between its first commit and the one of its audit row. -/
def CutBetween (host : AdminHost) : AuditedOperation → List Outcome → Prop
  | .runNow ctx _, plan =>
    CarriedOut 1 plan ∧ ¬(CarriedOut 4 plan ∧ syncAuditFits host.sync ctx = true)
  | .bootstrapAdmin _ _ _, plan => CarriedOut 1 plan ∧ ¬CarriedOut 2 plan
  | _, _ => False

/-! ## The journal and the tables -/

/-- Only audit rows go into the audit log. -/
theorem adminEngine_auditLog {change : AdminChange} {tables after : AdminTables}
    {sequences moved : AdminSequences} {rowId : Nat} (plain : change.isAudit = false)
    (taken : adminEngine change tables sequences = (.ok (after, rowId), moved)) :
    after.auditLog = tables.auditLog := by
  have log := congrArg FlatTables.auditLog (adminEngine_flat taken)
  cases change with
  | audit row => cases plain
  | _ => exact log

/-! ## One commit -/

section OneCommit

variable {tables : AdminTables} {sequences : AdminSequences}

/-- Nothing committed is nothing committed without its audit row. -/
theorem together_nil : Together ⟨tables, []⟩ := by
  constructor
  · rintro ⟨change, listed, -⟩
    cases listed
  · rintro ⟨change, listed, -⟩
    cases listed

/-- A change and an audit row are committed. -/
theorem together_of_both {version : Version AdminTables AdminChange}
    (changed : ChangeDurable version) (audited : AuditDurable version) : Together version :=
  ⟨fun _ => audited, fun _ => changed⟩

/-- A change is committed with its audit row. -/
theorem together_pair {change : AdminChange} {row : AuditLog} (plain : change.isAudit = false) :
    Together ⟨tables, [change, .audit row]⟩ :=
  together_of_both ⟨change, by simp, plain⟩ ⟨.audit row, by simp, rfl⟩

/-- A change is committed behind its audit row. -/
theorem together_swapped {change : AdminChange} {row : AuditLog} (plain : change.isAudit = false) :
    Together ⟨tables, [.audit row, change]⟩ :=
  together_of_both ⟨change, by simp, plain⟩ ⟨.audit row, by simp, rfl⟩

/-- The condition as one on the states that a script can end in. -/
abbrev EndsTogether (script : AdminScript) (tables : AdminTables) (sequences : AdminSequences) :
    Prop :=
  script.Ensures adminEngine (fun version _ => Together version) (Session.start tables sequences)

/-- A handler that flushes its change first commits it together with its audit row, if at all. -/
theorem flushThenAudit_together {change : AdminChange} {conflict : String} {audit : Nat → AuditLog}
    {status : Nat} (plain : change.isAudit = false) :
    EndsTogether (flushThenAudit change conflict audit status) tables sequences :=
  flushThenAudit_ensures together_nil together_nil together_nil
    fun _ _ _ _ => ⟨together_pair plain, together_pair plain⟩

/-- A handler without a flush. -/
theorem auditThenCommit_together {change : AdminChange} {row : AuditLog} {handled : AdminScript}
    {status : Nat} (plain : change.isAudit = false)
    (refused : ∀ moved, EndsTogether handled tables moved) :
    EndsTogether (auditThenCommit change row handled status) tables sequences :=
  auditThenCommit_ensures plain together_nil together_nil refused
    fun _ _ _ _ => ⟨together_swapped plain, together_swapped plain⟩

/-- A lookup whose missing row is refused. -/
theorem sessionGet_together {Row : Type} {rows : List Row} {key : Row → Nat} {id : Int}
    {status : Nat} {detail : Option String} {found : Row → AdminScript}
    (present : ∀ row, EndsTogether (found row) tables sequences) :
    EndsTogether (sessionGet rows key id (refuse status detail) found) tables sequences :=
  sessionGet_ensures together_nil together_nil fun row _ _ => present row

/-- A handler that prepares its change ends together if what follows does for every change. -/
theorem whenPrepared_together {prepared : Except HttpError PreparedChange}
    {next : PreparedChange → AdminScript}
    (ready : ∀ change, EndsTogether (next change) tables sequences) :
    EndsTogether (whenPrepared prepared next) tables sequences :=
  whenPrepared_ensures (fun _ _ => together_nil) fun change _ => ready change

/-- A handler that changes a loaded device. -/
theorem changeDevice_together (ctx : SessionContext) (deviceId : Int)
    (prepared : DeviceTables → Nat → Except HttpError PreparedChange) (status : Nat) :
    EndsTogether (changeDeviceHandler ctx deviceId prepared status) tables sequences := by
  refine ⟨together_nil, together_nil, ?_⟩
  apply sessionGet_together
  intro row
  apply whenPrepared_together
  intro change
  exact auditThenCommit_together rfl fun _ => together_nil

/-- Creating an authorization once its principal is found. -/
theorem authorize_together (ctx : SessionContext) (seen : AdminTables)
    (payload : AuthorizationCreate) (row : Nat → Nat → Authorization) :
    EndsTogether (authorize ctx seen payload row) tables sequences := by
  apply sessionGet_together
  intro group
  apply sessionGet_together
  intro profile
  exact flushThenAudit_together rfl

/-- Every request on a resource. -/
theorem request_together (printable : Char → Bool) (ctx : SessionContext) (request : AdminRequest) :
    EndsTogether (request.handler printable ctx) tables sequences := by
  cases request with
  | createDevice payload =>
    refine ⟨together_nil, together_nil, ?_⟩
    split
    · apply whenPrepared_together
      intro change
      exact flushThenAudit_together rfl
    · exact together_nil
  | updateDevice deviceId payload =>
    refine ⟨together_nil, together_nil, ?_⟩
    apply sessionGet_together
    intro row
    split
    · apply whenPrepared_together
      intro change
      exact flushThenAudit_together rfl
    · exact together_nil
  | deleteDevice deviceId => exact changeDevice_together ctx deviceId _ _
  | rotateSecret deviceId payload =>
    exact changeDevice_together ctx deviceId (fun tables id => rotateSecret tables id payload) 200
  | retirePreviousSecret deviceId now =>
    exact changeDevice_together ctx deviceId
      (fun tables id => retirePreviousSecret tables id now) 200
  | createDeviceGroup payload => exact flushThenAudit_together rfl
  | updateDeviceGroup groupId payload =>
    refine ⟨together_nil, together_nil, ?_⟩
    apply sessionGet_together
    intro row
    exact flushThenAudit_together rfl
  | createPrivilegeProfile payload => exact flushThenAudit_together rfl
  | updatePrivilegeProfile profileId payload =>
    refine ⟨together_nil, together_nil, ?_⟩
    apply sessionGet_together
    intro row
    exact flushThenAudit_together rfl
  | deletePrivilegeProfile profileId =>
    refine ⟨together_nil, together_nil, ?_⟩
    apply sessionGet_together
    intro row
    exact auditThenCommit_together rfl fun _ => together_nil
  | createAuthorization payload =>
    obtain ⟨principal, deviceGroupId, privilegeProfileId⟩ := payload
    cases principal with
    | user userId =>
      refine ⟨together_nil, together_nil, ?_⟩
      apply sessionGet_together
      intro user
      exact authorize_together ctx tables ⟨.user userId, deviceGroupId, privilegeProfileId⟩ _
    | adGroup adGroupId =>
      refine ⟨together_nil, together_nil, ?_⟩
      apply sessionGet_together
      intro adGroup
      exact authorize_together ctx tables ⟨.adGroup adGroupId, deviceGroupId, privilegeProfileId⟩ _
  | deleteAuthorization authzId =>
    refine ⟨together_nil, together_nil, ?_⟩
    apply sessionGet_together
    intro row
    exact auditThenCommit_together rfl fun _ => together_nil

/-- Deleting a device group. -/
theorem deleteDeviceGroup_together (ctx : SessionContext) (deviceGroupId : Int) :
    EndsTogether (deleteDeviceGroupHandler ctx deviceGroupId) tables sequences := by
  refine ⟨together_nil, together_nil, ?_⟩
  apply sessionGet_together
  intro row
  exact auditThenCommit_together rfl fun _ => together_nil

/-- Writes that are only staged lead to what follows them. -/
theorem writeEach_ensures {post : Version AdminTables AdminChange → Ending Reply → Prop}
    {writes : List AdminChange} {last : AdminScript}
    {session : Session AdminTables AdminSequences AdminChange}
    (raised : post session.durable .raised) (stopped : post session.durable .stopped)
    (rest : last.Ensures adminEngine post
      { session with staged := session.staged ++ writes }) :
    (writeEach writes last).Ensures adminEngine post session := by
  induction writes generalizing session with
  | nil =>
    rw [List.append_nil] at rest
    exact rest
  | cons change writes ih =>
    refine ⟨raised, stopped, ?_⟩
    change (writeEach writes last).Ensures adminEngine post (session.stage change)
    have raisedHere : post (session.stage change).durable .raised := raised
    have stoppedHere : post (session.stage change).durable .stopped := stopped
    apply ih raisedHere stoppedHere
    change last.Ensures adminEngine post
      { session with staged := (session.staged ++ [change]) ++ writes }
    rw [List.append_assoc]
    exact rest

/-- A PUT that changes a setting commits it together with its audit row, if at all. -/
theorem putSettings_together (ctx : SessionContext) {writes : List AdminChange} (audit : AuditLog)
    (changing : ∃ change ∈ writes, change.isAudit = false) :
    EndsTogether (putSettings ctx writes audit) tables sequences := by
  unfold putSettings
  split
  · exact together_nil
  · apply writeEach_ensures together_nil together_nil
    refine ⟨together_nil, together_nil, fun _ => together_nil, fun committed step => ?_⟩
    have journal := Session.commit_journal step
    obtain ⟨change, listed, plain⟩ := changing
    have both : Together committed.durable := by
      apply together_of_both
      · refine ⟨change, ?_, plain⟩
        rw [journal]
        simp [Session.stage, Session.start, listed]
      · refine ⟨.audit audit, ?_, rfl⟩
        rw [journal]
        simp [Session.stage, Session.start]
    exact ⟨both, both⟩

/-- Every PUT of settings commits its writes together with its audit row, if at all. -/
theorem put_together (host : AdminHost) (ctx : SessionContext) (settings : SettingsPut) :
    EndsTogether (settings.script host ctx) tables sequences := by
  cases settings with
  | ldap payload => exact putSettings_together ctx _ ⟨_, List.mem_cons_self, rfl⟩
  | web payload => exact putSettings_together ctx _ ⟨_, List.mem_cons_self, rfl⟩
  | ldapSync payload => exact putSettings_together ctx _ ⟨_, List.mem_cons_self, rfl⟩
  | samlIdpMetadata xml =>
    change EndsTogether (importIdpMetadata host.parseIdpMetadata ctx xml) tables sequences
    unfold importIdpMetadata
    split
    · exact together_nil
    · split
      · exact together_nil
      · exact putSettings_together ctx _ ⟨_, List.mem_cons_self, rfl⟩
  | samlMapping payload => exact putSettings_together ctx _ ⟨_, List.mem_cons_self, rfl⟩
  | syslog payload => exact putSettings_together ctx _ ⟨_, List.mem_cons_self, rfl⟩

end OneCommit

/-! ## More than one commit -/

section MoreCommits

variable {session : Session AdminTables AdminSequences AdminChange} {plan : List Outcome}

/-- A change is committed and its audit row is not. -/
def Unaudited (version : Version AdminTables AdminChange) : Prop :=
  ChangeDurable version ∧ ¬AuditDurable version

/-- A change without an audit row is not together with one. -/
theorem not_together_of_unaudited {version : Version AdminTables AdminChange}
    (unaudited : Unaudited version) : ¬Together version :=
  fun together => unaudited.2 (together.mp unaudited.1)

/-- The first change committed leaves no audit row. -/
theorem unaudited_first {change : AdminChange} {tables after : AdminTables}
    {sequences moved : AdminSequences} (plain : change.isAudit = false) :
    Unaudited ((Session.start tables sequences).afterCommit change after moved).durable := by
  constructor
  · exact ⟨change, List.mem_singleton_self change, plain⟩
  · intro audited
    obtain ⟨other, listed, isAudit⟩ := audited
    have same : other = change := List.mem_singleton.mp listed
    rw [same, plain] at isAudit
    cases isAudit

/-- A further change that is no audit row leaves what is committed without one. -/
theorem unaudited_next {change : AdminChange} {after : AdminTables} {moved : AdminSequences}
    (before : Unaudited session.durable) (plain : change.isAudit = false) :
    Unaudited (session.afterCommit change after moved).durable := by
  constructor
  · exact ⟨change, List.mem_append_right _ (List.mem_singleton_self change), plain⟩
  · intro audited
    obtain ⟨other, listed, isAudit⟩ := audited
    have places := List.mem_append.mp listed
    cases places with
    | inl earlier => exact before.2 ⟨other, earlier, isAudit⟩
    | inr last =>
      have same : other = change := List.mem_singleton.mp last
      rw [same, plain] at isAudit
      cases isAudit

/-- A lookup after an unaudited change must proceed. -/
theorem together_query_iff {next : AdminTables → AdminSequences → AdminScript}
    (unaudited : Unaudited session.durable) :
    Together ((Script.query next).run adminEngine session plan).1.durable ↔
      plan.headD .proceeds = .proceeds ∧
        Together ((next session.working.tables session.sequences).run adminEngine session
          plan.tail).1.durable := by
  rw [Script.run_query_durable]
  split
  · rename_i proceeds
    rw [and_iff_right proceeds]
  · rename_i cut
    constructor
    · intro together
      exact absurd together (not_together_of_unaudited unaudited)
    · intro both
      exact absurd both.1 cut

/-- A further commit without an audit row must go through. -/
theorem together_commit_iff {change : AdminChange} {rest : AdminScript} {after : AdminTables}
    {id : Nat} {moved : AdminSequences} (idle : session.Idle)
    (unaudited : Unaudited session.durable) (plain : change.isAudit = false)
    (taken : adminEngine change session.durable.tables session.sequences =
      (.ok (after, id), moved)) :
    Together ((Script.stage change (.commit .raise rest)).run adminEngine session plan).1.durable ↔
      plan.headD .proceeds = .proceeds ∧
        Together (rest.run adminEngine (session.afterCommit change after moved)
          plan.tail).1.durable := by
  rw [Script.run_commitOne_durable idle taken]
  split
  · rename_i proceeds
    rw [and_iff_right proceeds]
  · rename_i cut
    constructor
    · intro together
      split at together
      · exact absurd together (not_together_of_unaudited (unaudited_next unaudited plain))
      · exact absurd together (not_together_of_unaudited unaudited)
    · intro both
      exact absurd both.1 cut

/-- The commit of the audit row has to be carried out, and the row has to fit. -/
theorem together_audit_iff {row : AuditLog} {answer : Reply} (idle : session.Idle)
    (unaudited : Unaudited session.durable) :
    Together ((Script.stage (.audit row) (.commit .raise (.respond answer))).run adminEngine session
        plan).1.durable ↔
      CarriedOut 0 plan ∧ row.fits = true := by
  cases fits : row.fits with
  | false =>
    have refused : adminEngine (.audit row) session.durable.tables session.sequences =
        (.error .other, session.sequences) := by
      simp [adminEngine, insertAudit, statement, fits]
    rw [Script.run_commitOne_refused idle refused]
    constructor
    · intro together
      exact absurd together (not_together_of_unaudited unaudited)
    · intro both
      cases both.2
  | true =>
    have taken : adminEngine (.audit row) session.durable.tables session.sequences =
        (.ok ({ session.durable.tables with
          auditLog := session.durable.tables.auditLog ++ [row] }, 0), session.sequences) := by
      simp [adminEngine, insertAudit, statement, fits]
    rw [Script.run_commitOne_durable idle taken, and_iff_left rfl]
    have audited : Together (session.afterCommit (.audit row) { session.durable.tables with
        auditLog := session.durable.tables.auditLog ++ [row] } session.sequences).durable := by
      obtain ⟨change, listed, plain⟩ := unaudited.1
      apply together_of_both
      · exact ⟨change, List.mem_append_left _ listed, plain⟩
      · exact ⟨.audit row, List.mem_append_right _ (List.mem_singleton_self _), rfl⟩
    split
    · rename_i proceeds
      exact iff_of_true audited (.inl proceeds)
    · rename_i cut
      split
      · rename_i unanswered
        exact iff_of_true audited (.inr unanswered)
      · rename_i lost
        apply iff_of_false (not_together_of_unaudited unaudited)
        intro carriedOut
        cases carriedOut with
        | inl proceeds => exact cut proceeds
        | inr unanswered => exact lost unanswered

/-- A lookup before any change may be cut. -/
theorem together_firstQuery_iff {next : AdminTables → AdminSequences → AdminScript}
    {tables : AdminTables} {sequences : AdminSequences} :
    Together ((Script.query next).run adminEngine (.start tables sequences) plan).1.durable ↔
      (plan.headD .proceeds = .proceeds →
        Together ((next tables sequences).run adminEngine (.start tables sequences)
          plan.tail).1.durable) := by
  rw [Script.run_query_durable]
  split
  · rename_i proceeds
    constructor
    · intro together _
      exact together
    · intro rest
      exact rest proceeds
  · rename_i cut
    constructor
    · intro _ proceeds
      exact absurd proceeds cut
    · intro _
      exact together_nil

/-- The first commit may be cut, but once it is carried out the operation has to go on. -/
theorem together_firstCommit_iff {change : AdminChange} {rest : AdminScript}
    {tables after : AdminTables} {id : Nat} {sequences moved : AdminSequences}
    (plain : change.isAudit = false)
    (taken : adminEngine change tables sequences = (.ok (after, id), moved)) :
    Together ((Script.stage change (.commit .raise rest)).run adminEngine (.start tables sequences)
        plan).1.durable ↔
      (CarriedOut 0 plan → plan.headD .proceeds = .proceeds ∧
        Together (rest.run adminEngine
          ((Session.start tables sequences).afterCommit change after moved)
          plan.tail).1.durable) := by
  rw [Script.run_commitOne_durable Session.idle_start taken]
  split
  · rename_i proceeds
    constructor
    · intro together _
      exact ⟨proceeds, together⟩
    · intro rest
      exact (rest (.inl proceeds)).2
  · rename_i cut
    split
    · rename_i unanswered
      constructor
      · intro together
        exact absurd together (not_together_of_unaudited (unaudited_first plain))
      · intro rest
        exact absurd (rest (.inr unanswered)).1 cut
    · rename_i lost
      constructor
      · intro _ carriedOut
        cases carriedOut with
        | inl proceeds => exact absurd proceeds cut
        | inr unanswered => exact absurd unanswered lost
      · intro _
        exact together_nil

end MoreCommits

/-! ## The manual sync run -/

/-- The digits of a number have no NUL. -/
theorem nul_notMem_toDigits (value : Nat) : '\x00' ∉ Nat.toDigits 10 value := by
  intro listed
  have digits : ('\x00' : Char).isDigit = true :=
    Nat.isDigit_of_mem_toDigits (by decide) (by decide) listed
  cases digits

/-- The numbers of the summary put nothing into the audit row that its column refuses. -/
theorem runAudit_summary_fits (ctx : SessionContext) (took : String)
    (summary : LdapSyncRunSummary) :
    (runAudit ctx .ldapSyncRunSucceeded (runSummaryText took summary)).fits =
      (runAudit ctx .ldapSyncRunSucceeded took).fits := by
  have same : textFits none (some (runSummaryText took summary)) = textFits none (some took) := by
    simp only [textFits, Option.all_some, Option.all_none, Bool.true_and]
    rw [Bool.eq_iff_iff]
    have literal : ∀ text : String, toString text = text := fun _ => rfl
    -- The equation of this definition is slow to generate.
    delta runSummaryText
    simp [literal, nul_notMem_toDigits]
  simp only [AuditLog.fits, runAudit, same]

/-- An operation that only records something changes nothing. -/
theorem not_changeDurable_auditOnly (row : AuditLog) (answer : Reply) (tables : AdminTables)
    (sequences : AdminSequences) (plan : List Outcome) :
    ¬ChangeDurable ((Script.stage (.audit row) (.commit .raise (.respond answer))).run adminEngine
      (.start tables sequences) plan).1.durable := by
  have nothing : ¬ChangeDurable (⟨tables, []⟩ : Version AdminTables AdminChange) := by
    intro changed
    obtain ⟨change, listed, -⟩ := changed
    cases listed
  have recorded : ∀ committed,
      ((Session.start tables sequences).stage (.audit row)).commit adminEngine =
          (.ok (), committed) → ¬ChangeDurable committed.durable := by
    intro committed step changed
    obtain ⟨change, listed, plain⟩ := changed
    rw [Session.commit_journal step] at listed
    have same : change = .audit row := by simpa [Session.stage, Session.start] using listed
    rw [same] at plain
    cases plain
  have ensured : (Script.stage (.audit row) (.commit .raise (.respond answer))).Ensures adminEngine
      (fun version _ => ¬ChangeDurable version) (.start tables sequences) :=
    ⟨nothing, nothing, fun _ => nothing, fun committed step =>
      ⟨recorded committed step, recorded committed step⟩⟩
  exact Script.run_ensures ensured plan

/-- The manual sync run, where it changes anything, is committed together with its audit row unless
the run is carried out and the row behind it is not. -/
theorem runNow_together_iff (host : SyncHost) (ctx : SessionContext) (times : RunTimes)
    (tables : AdminTables) (sequences : AdminSequences) (plan : List Outcome)
    (changes : ChangeDurable
      ((runNowScript host ctx times).run adminEngine (.start tables sequences) []).1.durable) :
    Together
        ((runNowScript host ctx times).run adminEngine (.start tables sequences) plan).1.durable ↔
      ¬(CarriedOut 1 plan ∧ ¬(CarriedOut 4 plan ∧ syncAuditFits host ctx = true)) := by
  unfold runNowScript at changes ⊢
  split at changes
  · obtain ⟨change, listed, -⟩ := changes
    cases listed
  rename_i admin
  have begun : ([] : List Outcome).headD .proceeds = .proceeds := rfl
  rw [Script.run_query_durable, if_pos begun] at changes
  rw [if_neg admin, together_firstQuery_iff]
  cases ran : runSyncInThread host tables.syncStore times with
  | error failure =>
    cases failure with
    | syncRunError message =>
      have recorded : ChangeDurable
        ((Script.stage (.audit (runAudit ctx .ldapSyncRunFailed message))
          (.commit .raise (refuse 400 (some message)))).run adminEngine
          (.start tables sequences) []).1.durable := by
        rw [show runSyncInThread host (Session.start tables sequences).working.tables.syncStore
          times = .error (.syncRunError message) from ran] at changes
        exact changes
      exact absurd recorded (not_changeDurable_auditOnly _ _ _ _ _)
    | _ =>
      rw [show runSyncInThread host (Session.start tables sequences).working.tables.syncStore times
        = _ from ran] at changes
      obtain ⟨change, listed, -⟩ := changes
      cases listed
  | ok outcome =>
    obtain ⟨after, summary⟩ := outcome
    have synced : adminEngine (.identity after.identity) tables sequences =
      (.ok ({ tables with identity := after.identity }, 0), sequences) := rfl
    have first : (AdminChange.identity after.identity).isAudit = false := rfl
    have second : (AdminChange.lastSyncResult summary).isAudit = false := rfl
    simp only
    rw [together_firstCommit_iff first synced]
    rw [together_query_iff (unaudited_first first)]
    rw [together_commit_iff Session.idle_afterCommit (unaudited_first first) second rfl]
    rw [together_audit_iff Session.idle_afterCommit
      (unaudited_next (unaudited_first first) second)]
    rw [runAudit_summary_fits]
    simp only [CarriedOut, syncAuditFits]
    tauto

/-- The last commit of a request adds its audit row, when that fits. -/
theorem auditTail_syncStore {row : AuditLog} {answer : Reply} {response : RunResponse}
    {session : Session AdminTables AdminSequences AdminChange} (idle : session.Idle) :
    ((Script.stage (.audit row) (.commit .raise (.respond answer))).run adminEngine session
        []).1.durable.tables.syncStore =
      (session.durable.tables.syncStore.recorded row response).2 := by
  unfold SyncStore.recorded
  by_cases fits : row.fits = true
  · have taken : adminEngine (.audit row) session.durable.tables session.sequences =
        (.ok ({ session.durable.tables with
          auditLog := session.durable.tables.auditLog ++ [row] }, 0), session.sequences) := by
      simp [adminEngine, insertAudit, statement, fits]
    rw [Script.run_commitOne_durable idle taken, if_pos fits]
    rfl
  · have refused : adminEngine (.audit row) session.durable.tables session.sequences =
        (.error .other, session.sequences) := by
      simp [adminEngine, insertAudit, statement, fits]
    rw [Script.run_commitOne_refused idle refused, if_neg fits]

/-- What a run that goes through changes. -/
theorem runSyncInThread_committed {host : SyncHost} {store after : SyncStore} {times : RunTimes}
    {summary : LdapSyncRunSummary}
    (ran : runSyncInThread host store times = .ok (after, summary)) :
    after = { store with identity := after.identity, lastSyncResult := some summary } := by
  unfold runSyncInThread at ran
  split at ran
  · cases ran
  · cases ran
  · cases inner : runFullSync host store times with
    | error failure =>
      rw [inner] at ran
      cases ran
    | ok outcome =>
      rw [inner] at ran
      cases ran
      rfl

/-- Left alone, the script of a run does to the store of the synchronisation what the endpoint
does. -/
theorem runNowScript_syncStore {host : SyncHost} {ctx : SessionContext} {times : RunTimes}
    {tables : AdminTables} {sequences : AdminSequences} :
    ((runNowScript host ctx times).run adminEngine (.start tables sequences)
        []).1.durable.tables.syncStore =
      (runNow host ctx tables.syncStore times).2 := by
  unfold runNowScript runNow
  split
  · rfl
  · have begun : ([] : List Outcome).headD .proceeds = .proceeds := rfl
    rw [Script.run_query_durable, if_pos begun]
    cases ran : runSyncInThread host tables.syncStore times with
    | error failure =>
      rw [show runSyncInThread host (Session.start tables sequences).working.tables.syncStore times
        = .error failure from ran]
      cases failure with
      | syncRunError message =>
        have idle : (Session.start tables sequences : Session _ _ AdminChange).Idle :=
          Session.idle_start
        exact auditTail_syncStore idle
      | _ => rfl
    | ok outcome =>
      obtain ⟨after, summary⟩ := outcome
      have committed := runSyncInThread_committed ran
      rw [show runSyncInThread host (Session.start tables sequences).working.tables.syncStore times
        = .ok (after, summary) from ran]
      have synced : adminEngine (.identity after.identity) tables sequences =
        (.ok ({ tables with identity := after.identity }, 0), sequences) := rfl
      have stored : adminEngine (.lastSyncResult summary)
          { tables with identity := after.identity } sequences =
        (.ok ({ tables with identity := after.identity, lastSyncResult := some summary }, 0),
          sequences) := rfl
      have recorded := @auditTail_syncStore
        (runAudit ctx .ldapSyncRunSucceeded (runSummaryText host.took summary)) (.response 200) .ok
      simp only
      rw [Script.run_commitOne_durable Session.idle_start synced, List.tail_nil, if_pos begun,
        List.tail_nil, Script.run_query_durable, if_pos begun,
        Script.run_commitOne_durable Session.idle_afterCommit stored, List.tail_nil, if_pos begun,
        List.tail_nil, recorded Session.idle_afterCommit, committed]
      rfl

/-! ## The command -/

/-- The audit row of the command fits whenever the name fits its column in `local_admin`. -/
theorem cliAuditRow_fits {action : AuditAction} {username summary : String}
    (code : textFits (some 64) (some action.code) = true)
    (text : textFits none (some summary) = true)
    (name : textFits (some 64) (some username) = true) :
    (cliAuditRow action username summary).fits = true := by
  have wider : textFits (some 256) (some username) = true := by
    simp only [textFits, Option.all_some, Bool.and_eq_true, decide_eq_true_eq] at name ⊢
    have length : username.length ≤ 256 := by omega
    exact ⟨length, name.2⟩
  simp only [AuditLog.fits, cliAuditRow, code, text, wider]
  decide

/-- The row of `local_admin` is written only with a name that fits. -/
theorem putLocalAdmin_username {tables after : AdminTables} {username hash : String}
    {cidr : Option String} {lastLoginAt : Option Nat} {id : Nat}
    (written : putLocalAdmin tables username hash cidr lastLoginAt = .ok (after, id)) :
    textFits (some 64) (some username) = true := by
  unfold putLocalAdmin at written
  split at written
  · exact (Bool.and_eq_true_iff.mp (statement_fits written)).1
  · cases written

/-- A change of the local admin with the audit row behind it. -/
theorem localAdmin_together_iff {username hash : String} {cidr : Option String}
    {lastLoginAt : Option Nat} {action : AuditAction} {summary : String} {tables : AdminTables}
    {sequences : AdminSequences} {plan : List Outcome}
    (code : textFits (some 64) (some action.code) = true)
    (text : textFits none (some summary) = true)
    (changes : ChangeDurable ((Script.stage (.localAdmin username hash cidr lastLoginAt)
      (.commit .raise (cliAudit action username summary))).run adminEngine
        (.start tables sequences) []).1.durable) :
    Together ((Script.stage (.localAdmin username hash cidr lastLoginAt)
        (.commit .raise (cliAudit action username summary))).run adminEngine
          (.start tables sequences) plan).1.durable ↔
      (CarriedOut 0 plan → CarriedOut 1 plan) := by
  cases written : putLocalAdmin tables username hash cidr lastLoginAt with
  | error fault =>
    have refused : adminEngine (.localAdmin username hash cidr lastLoginAt) tables sequences =
        (.error fault, sequences) := by
      simp only [adminEngine, written]
    rw [Script.run_commitOne_refused Session.idle_start refused] at changes
    obtain ⟨change, listed, -⟩ := changes
    cases listed
  | ok outcome =>
    obtain ⟨after, id⟩ := outcome
    have taken : adminEngine (.localAdmin username hash cidr lastLoginAt) tables sequences =
        (.ok (after, id), sequences) := by
      simp only [adminEngine, written]
    have plain : (AdminChange.localAdmin username hash cidr lastLoginAt).isAudit = false := rfl
    have fits := cliAuditRow_fits code text (putLocalAdmin_username written)
    rw [together_firstCommit_iff plain taken]
    unfold cliAudit
    rw [together_audit_iff Session.idle_afterCommit (unaudited_first plain), fits,
      and_iff_left rfl]
    simp only [CarriedOut]

/-- The command, where it changes anything, commits the account together with its audit row unless
it gets past the first commit and not past the second. -/
theorem bootstrapAdmin_together_iff (hashPassword : String → String) (username password : String)
    (resetPassword : Bool) (tables : AdminTables) (sequences : AdminSequences)
    (plan : List Outcome)
    (changes : ChangeDurable ((bootstrapAdmin hashPassword username password resetPassword).run
      adminEngine (.start tables sequences) []).1.durable) :
    Together ((bootstrapAdmin hashPassword username password resetPassword).run adminEngine
        (.start tables sequences) plan).1.durable ↔
      ¬(CarriedOut 1 plan ∧ ¬CarriedOut 2 plan) := by
  unfold bootstrapAdmin at changes ⊢
  have begun : ([] : List Outcome).headD .proceeds = .proceeds := rfl
  rw [Script.run_query_durable, if_pos begun] at changes
  rw [together_firstQuery_iff]
  have here : (Session.start tables sequences :
    Session AdminTables AdminSequences AdminChange).working.tables = tables := rfl
  rw [here] at changes
  cases stored : tables.localAdmin with
  | none =>
    simp only [stored] at changes ⊢
    rw [localAdmin_together_iff (by decide) (by decide) changes]
    simp only [CarriedOut]
    tauto
  | some existing =>
    simp only [stored] at changes ⊢
    cases resetPassword with
    | false =>
      obtain ⟨change, listed, -⟩ := changes
      cases listed
    | true =>
      rw [if_neg (by decide)] at changes ⊢
      rw [localAdmin_together_iff (by decide) (by decide) changes]
      simp only [CarriedOut]
      tauto

/-! ## Every operation -/

/-- An operation that changes the database keeps the change and its audit row together exactly when
it is not cut between their commits. -/
theorem audited_together_iff (host : AdminHost) (operation : AuditedOperation)
    (tables : AdminTables) (sequences : AdminSequences) (plan : List Outcome)
    (changes : ChangeDurable (ended host operation tables sequences [])) :
    Together (ended host operation tables sequences plan) ↔ ¬CutBetween host operation plan := by
  cases operation with
  | request ctx asked =>
    exact iff_of_true (Script.run_ensures (request_together host.printable ctx asked) plan) id
  | deleteDeviceGroup ctx deviceGroupId =>
    exact iff_of_true (Script.run_ensures (deleteDeviceGroup_together ctx deviceGroupId) plan) id
  | put ctx settings =>
    exact iff_of_true (Script.run_ensures (put_together host ctx settings) plan) id
  | runNow ctx times =>
    exact runNow_together_iff host.sync ctx times tables sequences plan changes
  | bootstrapAdmin username password resetPassword =>
    exact bootstrapAdmin_together_iff host.hashPassword username password resetPassword tables
      sequences plan changes

/-- A host whose directory refuses the service account. -/
def hostAtWork : AdminHost where
  printable := Char.isAlphanum
  dumps _ := "[]"
  parseIdpMetadata _ := .error "IdP metadata XML could not be parsed"
  sync := hostOf refusing
  hashPassword _ := "$argon2id$v=19$m=65536,t=3,p=4$c2FsdHNhbHQ$aGFzaA"

/-- `tacacs-web bootstrap-admin` without a local admin, cut after nothing. -/
theorem audited_together_bootstrap :
    ChangeDurable (ended hostAtWork (.bootstrapAdmin "admin" "secret" false) oneOfEach
        ⟨2, 2, 2, 2⟩ []) ∧
      (Together (ended hostAtWork (.bootstrapAdmin "admin" "secret" false) oneOfEach
          ⟨2, 2, 2, 2⟩ []) ↔
        ¬CutBetween hostAtWork (.bootstrapAdmin "admin" "secret" false) []) := by
  have changes : ChangeDurable (ended hostAtWork (.bootstrapAdmin "admin" "secret" false) oneOfEach
    ⟨2, 2, 2, 2⟩ []) := by decide +kernel
  exact ⟨changes, audited_together_iff hostAtWork (.bootstrapAdmin "admin" "secret" false) oneOfEach
    ⟨2, 2, 2, 2⟩ [] changes⟩

/-- The command stops after its first commit: the admin is there and no audit row says so. -/
theorem bootstrap_without_audit :
    ¬ ∀ (host : AdminHost) (operation : AuditedOperation) (tables : AdminTables)
      (sequences : AdminSequences) (plan : List Outcome),
      ChangeDurable (ended host operation tables sequences []) →
        Together (ended host operation tables sequences plan) := by
  intro claimed
  have changes : ChangeDurable (ended hostAtWork (.bootstrapAdmin "admin" "secret" false) oneOfEach
    ⟨2, 2, 2, 2⟩ []) := by decide +kernel
  have together := claimed hostAtWork (.bootstrapAdmin "admin" "secret" false) oneOfEach
    ⟨2, 2, 2, 2⟩ [.proceeds, .proceeds, .stops] changes
  have changed : ChangeDurable (ended hostAtWork (.bootstrapAdmin "admin" "secret" false) oneOfEach
    ⟨2, 2, 2, 2⟩ [.proceeds, .proceeds, .stops]) := by decide +kernel
  have unrecorded : ¬AuditDurable (ended hostAtWork (.bootstrapAdmin "admin" "secret" false)
    oneOfEach ⟨2, 2, 2, 2⟩ [.proceeds, .proceeds, .stops]) := by decide +kernel
  exact unrecorded (together.mp changed)

end TacacsWeb.Verif
