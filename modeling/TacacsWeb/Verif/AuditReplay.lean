import TacacsWeb.Verif.Attribution
import TacacsWeb.Verif.ResourceLog

/-!
# The audit log accounts for the resources

The devices, the device groups and the profiles that exist are those whose creation is in the audit
log and whose deletion is not. For the authorizations one thing more has to be read off the log: an
authorization also ends with its device group. No id is used twice, so a row of the log is about one
resource for all time.
-/

namespace TacacsWeb.Verif

open TacacsWeb.Library TacacsWeb.Library.UnitOfWork TacacsWeb.Model

/-- No two rows are about the creation of the same thing, nor about its deletion. -/
def NoneTwice (log : List AuditLog) : Prop :=
  log.Pairwise fun first second => ∀ target,
    ¬(SaysCreated target first ∧ SaysCreated target second) ∧
      ¬(SaysDeleted target first ∧ SaysDeleted target second)

/-- The log records that an authorization was granted. The summary of the row names its principal,
its device group and its profile. -/
def Granted (log : List AuditLog) (authorization : Authorization) : Prop :=
  ∃ row ∈ log, SaysCreated (.authorization authorization.id) row ∧
    row.summary = some (authorizationSummary authorization)

/-- The log records the deletion of an authorization, or of its device group. -/
def Ended (log : List AuditLog) (authorization : Authorization) : Prop :=
  Deleted log (.authorization authorization.id) ∨
    Deleted log (.deviceGroup authorization.deviceGroupId)

/-- The resources are what the log says. -/
structure AccountedFor (tables : AdminTables) : Prop where
  /-- Devices, device groups and profiles. -/
  plain : ∀ target, Target.isPlain target = true →
    (target.Listed tables ↔ Created tables.auditLog target ∧ ¬Deleted tables.auditLog target)
  /-- Authorizations. -/
  authorizations : ∀ row, row ∈ tables.authorizations ↔
    Granted tables.auditLog row ∧ ¬Ended tables.auditLog row
  /-- Nothing is created or deleted twice. -/
  once : NoneTwice tables.auditLog

/-! ## The invariant -/

/-- The resources are what the log says, a deletion is of what was created, and what was created has
an id that the sequence has passed. -/
structure Replayed (tables : AdminTables) (sequences : AdminSequences) : Prop extends
    AccountedFor tables where
  /-- Ids that are still to come are not in the log. -/
  numbered : ∀ target, Created tables.auditLog target → target.id < nextId sequences target
  /-- A deletion comes after the creation. -/
  ordered : ∀ target, Deleted tables.auditLog target → Created tables.auditLog target

section Invariant

variable {tables after : AdminTables} {sequences moved : AdminSequences} {row : AuditLog}
  {rows : List AuditLog}

/-- What is there was created and not deleted. -/
theorem Replayed.listed (replayed : Replayed tables sequences) {target : Target}
    (listed : target.Listed tables) :
    Created tables.auditLog target ∧ ¬Deleted tables.auditLog target := by
  cases target with
  | authorization id =>
    obtain ⟨authorization, there, same⟩ := listed
    obtain ⟨⟨entry, recorded, created, -⟩, lasting⟩ :=
      (replayed.authorizations authorization).mp there
    rw [same] at created
    have kept : ¬Deleted tables.auditLog (.authorization id) := by
      rw [← same]
      exact fun gone => lasting (.inl gone)
    exact ⟨⟨entry, recorded, created⟩, kept⟩
  | _ => exact (replayed.plain _ rfl).mp listed

/-- An id that is still to come is nowhere in the log. -/
theorem Replayed.fresh (replayed : Replayed tables sequences) {target : Target}
    (numbered : target.id = nextId sequences target) :
    ¬Created tables.auditLog target ∧ ¬Deleted tables.auditLog target := by
  have unborn : ¬Created tables.auditLog target := by
    intro created
    have below := replayed.numbered target created
    omega
  exact ⟨unborn, fun gone => unborn (replayed.ordered target gone)⟩

/-- The grants that one row adds to the log. -/
theorem granted_append {log : List AuditLog} {authorization : Authorization} :
    Granted (log ++ [row]) authorization ↔ Granted log authorization ∨
      SaysCreated (.authorization authorization.id) row ∧
        row.summary = some (authorizationSummary authorization) := by
  simp only [Granted, List.mem_append, List.mem_singleton, or_and_right, exists_or, exists_eq_left]

/-- A log in which one more row is about a creation or a deletion that it did not have. -/
theorem NoneTwice.append {log : List AuditLog} (once : NoneTwice log)
    (first : ∀ target, SaysCreated target row → ¬Created log target)
    (last : ∀ target, SaysDeleted target row → ¬Deleted log target) : NoneTwice (log ++ [row]) := by
  refine pairwise_insertRow once fun earlier listed target => ⟨?_, ?_⟩
  · rintro ⟨before, now⟩
    exact first target now ⟨earlier, listed, before⟩
  · rintro ⟨before, now⟩
    exact last target now ⟨earlier, listed, before⟩

/-- A log with rows about anything else. -/
theorem NoneTwice.append_silent {log : List AuditLog} (once : NoneTwice log)
    (silent : ∀ row ∈ rows, row.action ∉ lifecycleActions) : NoneTwice (log ++ rows) := by
  refine List.pairwise_append.mpr ⟨once, ?_, ?_⟩
  · refine List.pairwise_of_forall_mem_list fun first _ second listed target => ?_
    exact ⟨fun both => not_saysCreated (silent second listed) both.2,
      fun both => not_saysDeleted (silent second listed) both.2⟩
  · intro first _ second listed target
    exact ⟨fun both => not_saysCreated (silent second listed) both.2,
      fun both => not_saysDeleted (silent second listed) both.2⟩

/-- The invariant is kept where the resources stay and the log grows by rows about anything else. -/
theorem Replayed.quiet (replayed : Replayed tables sequences)
    (listed : ∀ other, Target.isPlain other = true → (other.Listed after ↔ other.Listed tables))
    (same : after.authorizations = tables.authorizations)
    (log : after.auditLog = tables.auditLog ++ rows)
    (silent : ∀ row ∈ rows, row.action ∉ lifecycleActions)
    (grown : ∀ target, nextId sequences target ≤ nextId moved target) : Replayed after moved where
  plain := by
    intro target plain
    rw [listed target plain, log, created_append_silent silent, deleted_append_silent silent]
    exact replayed.plain target plain
  authorizations := by
    intro authorization
    have granted : Granted (tables.auditLog ++ rows) authorization ↔
        Granted tables.auditLog authorization := by
      simp only [Granted, List.mem_append, or_and_right, exists_or]
      refine or_iff_left ?_
      rintro ⟨entry, there, created, -⟩
      exact not_saysCreated (silent entry there) created
    rw [same, log, granted, Ended, deleted_append_silent silent, deleted_append_silent silent]
    exact replayed.authorizations authorization
  once := by
    rw [log]
    exact replayed.once.append_silent silent
  numbered := by
    intro target created
    rw [log, created_append_silent silent] at created
    exact (replayed.numbered target created).trans_le (grown target)
  ordered := by
    intro target gone
    rw [log, deleted_append_silent silent] at gone
    rw [log, created_append_silent silent]
    exact replayed.ordered target gone

/-- The invariant is kept when a resource is created. -/
theorem Replayed.created (replayed : Replayed tables sequences) {target : Target}
    (recorded : SaysCreated target row) (numbered : target.id = nextId sequences target)
    (present : target.Listed after)
    (listed : ∀ other, Target.isPlain other = true →
      (other.Listed after ↔ other.Listed tables ∨ other = target))
    (granted : ∀ authorization, authorization ∈ after.authorizations ↔
      authorization ∈ tables.authorizations ∨
        target = .authorization authorization.id ∧
          row.summary = some (authorizationSummary authorization))
    (grouped : ∀ authorization, target = .authorization authorization.id →
      row.summary = some (authorizationSummary authorization) →
        (Target.deviceGroup authorization.deviceGroupId).Listed tables)
    (log : after.auditLog = tables.auditLog ++ [row])
    (grown : ∀ target, nextId sequences target ≤ nextId moved target)
    (bounded : ∀ target, target.Listed after → target.id < nextId moved target) :
    Replayed after moved where
  plain := by
    intro other plain
    rw [listed other plain, log, created_append_created recorded, deleted_append_created recorded,
      replayed.plain other plain]
    constructor
    · rintro (⟨born, kept⟩ | same)
      · exact ⟨.inl born, kept⟩
      · rw [same]
        exact ⟨.inr rfl, (replayed.fresh numbered).2⟩
    · rintro ⟨born | same, kept⟩
      · exact .inl ⟨born, kept⟩
      · exact .inr same
  authorizations := by
    intro authorization
    have about : SaysCreated (.authorization authorization.id) row ↔
        target = .authorization authorization.id := by
      constructor
      · exact fun told => told.unique recorded
      · intro same
        rw [← same]
        exact recorded
    rw [granted authorization, log, granted_append, about, Ended, deleted_append_created recorded,
      deleted_append_created recorded, replayed.authorizations authorization]
    constructor
    · rintro (⟨before, lasting⟩ | ⟨same, summary⟩)
      · exact ⟨.inl before, lasting⟩
      · have group := replayed.listed (grouped authorization same summary)
        refine ⟨.inr ⟨same, summary⟩, ?_⟩
        rintro (gone | gone)
        · rw [← same] at gone
          exact (replayed.fresh numbered).2 gone
        · exact group.2 gone
    · rintro ⟨before | new, lasting⟩
      · exact .inl ⟨before, lasting⟩
      · exact .inr new
  once := by
    rw [log]
    refine replayed.once.append ?_ fun other deleted => absurd deleted recorded.not_deleted
    intro other told
    rw [recorded.unique told]
    exact (replayed.fresh numbered).1
  numbered := by
    intro other born
    rw [log, created_append_created recorded] at born
    rcases born with before | same
    · exact (replayed.numbered other before).trans_le (grown other)
    · rw [same]
      exact bounded target present
  ordered := by
    intro other gone
    rw [log, deleted_append_created recorded] at gone
    rw [log, created_append_created recorded]
    exact .inl (replayed.ordered other gone)

/-- The invariant is kept when a resource is deleted. -/
theorem Replayed.deleted (replayed : Replayed tables sequences) {target : Target}
    (recorded : SaysDeleted target row) (present : target.Listed tables)
    (listed : ∀ other, Target.isPlain other = true →
      (other.Listed after ↔ other.Listed tables ∧ other ≠ target))
    (ended : ∀ authorization, authorization ∈ after.authorizations ↔
      authorization ∈ tables.authorizations ∧ ¬Ends target authorization)
    (log : after.auditLog = tables.auditLog ++ [row])
    (grown : ∀ target, nextId sequences target ≤ nextId moved target) : Replayed after moved where
  plain := by
    intro other plain
    rw [listed other plain, log, created_append_deleted recorded, deleted_append_deleted recorded,
      replayed.plain other plain, not_or, and_assoc]
  authorizations := by
    intro authorization
    have granted : Granted (tables.auditLog ++ [row]) authorization ↔
        Granted tables.auditLog authorization := by
      rw [granted_append]
      exact or_iff_left fun told => told.1.not_deleted recorded
    have ends : Ended (tables.auditLog ++ [row]) authorization ↔
        Ended tables.auditLog authorization ∨ Ends target authorization := by
      simp only [Ended, Ends, deleted_append_deleted recorded, eq_comm (b := target)]
      exact or_or_or_comm
    rw [ended authorization, log, granted, ends, replayed.authorizations authorization, not_or,
      and_assoc]
  once := by
    rw [log]
    refine replayed.once.append (fun other created => absurd recorded created.not_deleted) ?_
    intro other told
    rw [recorded.unique told]
    exact (replayed.listed present).2
  numbered := by
    intro other born
    rw [log, created_append_deleted recorded] at born
    exact (replayed.numbered other born).trans_le (grown other)
  ordered := by
    intro other gone
    rw [log, deleted_append_deleted recorded] at gone
    rw [log, created_append_deleted recorded]
    rcases gone with before | same
    · exact replayed.ordered other before
    · rw [same]
      exact (replayed.listed present).1

end Invariant

/-! ## Sequences -/

/-- Every resource has an id that its sequence has passed, and no sequence has gone back. -/
structure Passed (start : AdminSequences) (tables : AdminTables) (sequences : AdminSequences) :
    Prop where
  /-- Ids of rows. -/
  bounded : ∀ target, target.Listed tables → target.id < nextId sequences target
  /-- The sequences since the start. -/
  grown : ∀ target, nextId start target ≤ nextId sequences target

/-- No change sets a sequence back. -/
theorem nextId_le (change : AdminChange) (tables : AdminTables) (sequences : AdminSequences)
    (target : Target) :
    nextId sequences target ≤ nextId (adminEngine change tables sequences).2 target := by
  cases change with
  | device write => cases write <;> cases target <;> simp [adminEngine, nextId]
  | _ => cases target <;> simp [adminEngine, nextId]

/-- A row that is there after a change was there before, or has an id that the sequence gave. -/
theorem listed_taken {change : AdminChange} {tables after : AdminTables}
    {sequences moved : AdminSequences} {rowId : Nat}
    (taken : adminEngine change tables sequences = (.ok (after, rowId), moved)) {target : Target}
    (listed : target.Listed after) :
    target.Listed tables ∨ target.id < nextId moved target := by
  obtain ⟨answer, rfl⟩ := Prod.mk.inj taken
  cases change with
  | device write =>
    cases write with
    | insert device =>
      obtain ⟨-, rfl, -⟩ := statement_eq_ok answer
      cases target with
      | device id =>
        rcases exists_key_insertRow.mp listed with before | same
        · exact .inl before
        · right
          rw [same]
          exact Nat.lt_succ_self _
      | _ => exact .inl listed
    | update deviceId columns =>
      simp only [writeDevice] at answer
      split at answer
      · cases answer
        exact .inl listed
      · obtain ⟨-, rfl, -⟩ := statement_eq_ok answer
        cases target with
        | device id => exact .inl (exists_key_apply.mp listed)
        | _ => exact .inl listed
    | delete deviceId =>
      cases answer
      cases target with
      | device id => exact .inl (exists_key_deleteKey.mp listed).1
      | _ => exact .inl listed
  | insertDeviceGroup name description =>
    obtain ⟨-, rfl, -⟩ := statement_eq_ok answer
    cases target with
    | deviceGroup id =>
      rcases exists_key_insertRow.mp listed with before | same
      · exact .inl before
      · right
        rw [same]
        exact Nat.lt_succ_self _
    | _ => exact .inl listed
  | insertPrivilegeProfile payload =>
    obtain ⟨-, rfl, -⟩ := statement_eq_ok answer
    cases target with
    | privilegeProfile id =>
      rcases exists_key_insertRow.mp listed with before | same
      · exact .inl before
      · right
        rw [same]
        exact Nat.lt_succ_self _
    | _ => exact .inl listed
  | insertAuthorization row =>
    obtain ⟨-, rfl, -⟩ := statement_eq_ok answer
    cases target with
    | authorization id =>
      rcases exists_key_insertRow.mp listed with before | same
      · exact .inl before
      · right
        rw [same]
        exact Nat.lt_succ_self _
    | _ => exact .inl listed
  | replaceDeviceGroup row =>
    obtain ⟨-, rfl, -⟩ := statement_eq_ok answer
    cases target with
    | deviceGroup id => exact .inl (exists_key_replaceRow.mp listed)
    | _ => exact .inl listed
  | replacePrivilegeProfile row =>
    obtain ⟨-, rfl, -⟩ := statement_eq_ok answer
    cases target with
    | privilegeProfile id => exact .inl (exists_key_replaceRow.mp listed)
    | _ => exact .inl listed
  | deleteDeviceGroup groupId =>
    change deleteDeviceGroupRow tables groupId = .ok (after, rowId) at answer
    unfold deleteDeviceGroupRow at answer
    obtain ⟨-, rfl, -⟩ := statement_eq_ok answer
    cases target with
    | deviceGroup id => exact .inl (exists_key_deleteKey.mp listed).1
    | authorization id =>
      obtain ⟨row, there, same⟩ := listed
      exact .inl ⟨row, (List.mem_filter.mp there).1, same⟩
    | _ => exact .inl listed
  | deletePrivilegeProfile profileId =>
    change deletePrivilegeProfileRow tables profileId = .ok (after, rowId) at answer
    unfold deletePrivilegeProfileRow at answer
    obtain ⟨-, rfl, -⟩ := statement_eq_ok answer
    cases target with
    | privilegeProfile id => exact .inl (exists_key_deleteKey.mp listed).1
    | _ => exact .inl listed
  | deleteAuthorization authorizationId =>
    cases answer
    cases target with
    | authorization id => exact .inl (exists_key_deleteKey.mp listed).1
    | _ => exact .inl listed
  | systemSetting key value | audit row =>
    obtain ⟨-, rfl, -⟩ := statement_eq_ok answer
    cases target <;> exact .inl listed
  | systemSecret key value | identity identity | lastSyncResult summary =>
    cases answer
    cases target <;> exact .inl listed
  | localAdmin username hash cidr lastLoginAt =>
    simp only [putLocalAdmin] at answer
    split at answer
    · obtain ⟨-, rfl, -⟩ := statement_eq_ok answer
      cases target <;> exact .inl listed
    · cases answer

/-- The engine keeps the ids behind the sequences. -/
theorem passed_numbers (start : AdminSequences) : Numbers adminEngine (Passed start) where
  taken := by
    intro change tables sequences after rowId moved passed taken
    have later : ∀ target, nextId sequences target ≤ nextId moved target := by
      intro target
      have kept := nextId_le change tables sequences target
      rwa [taken] at kept
    refine ⟨fun target listed => ?_, fun target => (passed.grown target).trans (later target)⟩
    rcases listed_taken taken listed with before | new
    · exact (passed.bounded target before).trans_le (later target)
    · exact new
  moved := by
    intro change tables sequences other passed
    have later := nextId_le change tables sequences
    exact ⟨fun target listed => (passed.bounded target listed).trans_le (later target),
      fun target => (passed.grown target).trans (later target)⟩

/-! ## Runs -/

/-- The invariant of the application. -/
def AuditReplayed (app : Application) : Prop := Replayed app.tables app.sequences

section Runs

variable {fold : CaseFolding} {app : Application}

/-- Where the tables of an application agree with its log, its ids are behind its sequences. -/
theorem passed_of_replayed (replayed : AuditReplayed app) :
    Passed app.sequences app.tables app.sequences where
  bounded := fun target listed => replayed.numbered target (replayed.listed listed).1
  grown := fun _ => le_rfl

/-- After a script the ids are still behind the sequences. -/
theorem passed_perform (replayed : AuditReplayed app) {Answer : Type}
    (script : Script AdminTables AdminSequences AdminChange Answer)
    (plan : List UnitOfWork.Outcome) :
    Passed app.sequences (app.perform script plan).tables (app.perform script plan).sequences := by
  have start : Passed app.sequences app.tables app.sequences := passed_of_replayed replayed
  have agrees : (Session.start app.tables app.sequences : Session _ _ AdminChange).Agrees
      (Passed app.sequences) := ⟨start, start⟩
  exact ((passed_numbers app.sequences).run script agrees plan).durable

/-- A step that leaves the resources alone, and logs nothing about them. -/
theorem AuditReplayed.aside (replayed : AuditReplayed app) {next : Application}
    {rows : List AuditLog}
    (kept : ResourcesKept app.tables next.tables)
    (log : next.tables.auditLog = app.tables.auditLog ++ rows)
    (silent : ∀ row ∈ rows, row.action ∉ lifecycleActions)
    (grown : ∀ target, nextId app.sequences target ≤ nextId next.sequences target) :
    AuditReplayed next := by
  refine Replayed.quiet replayed ?_ kept.authorizations log silent grown
  intro other plain
  cases other with
  | device id => simp only [Target.Listed, kept.devices]
  | deviceGroup id => simp only [Target.Listed, kept.deviceGroups]
  | privilegeProfile id => simp only [Target.Listed, kept.privilegeProfiles]
  | authorization id => cases plain

/-- What a handler of a resource leaves behind. -/
theorem AuditReplayed.documented (replayed : AuditReplayed app) {ctx : SessionContext}
    {next : Application} {version : Version AdminTables AdminChange}
    (documented : CommitsDocumented ctx app.tables app.sequences version)
    (same : next.tables = version.tables)
    (passed : Passed app.sequences next.tables next.sequences) : AuditReplayed next := by
  cases documented with
  | untouched =>
    have kept : ResourcesKept app.tables next.tables := by
      rw [same]
      exact ⟨rfl, rfl, rfl, rfl⟩
    have log : next.tables.auditLog = app.tables.auditLog ++ [] := by
      rw [same, List.append_nil]
    exact AuditReplayed.aside replayed kept log (fun _ listed => absurd listed List.not_mem_nil)
      passed.grown
  | changed both taken documents own =>
    rename_i change after rowId moved row
    have plain : change.isAudit = false := by cases documents <;> rfl
    have log : next.tables.auditLog = app.tables.auditLog ++ [row] := by
      rw [same]
      change after.auditLog ++ [row] = _
      rw [adminEngine_auditLog plain taken]
    have listed : ∀ target : Target, target.Listed next.tables ↔ target.Listed after := by
      intro target
      rw [same]
      cases target <;> exact Iff.rfl
    have authorizations : next.tables.authorizations = after.authorizations := by
      rw [same]
      rfl
    unfold AuditReplayed
    rcases documents_resourceStep taken documents with
      ⟨recorded, numbered, present, shown, granted, grouped⟩ | ⟨recorded, present, shown, ended⟩ |
        ⟨silent, shown, kept⟩
    · refine Replayed.created replayed recorded numbered ((listed _).mpr present) ?_ ?_ grouped log
        passed.grown passed.bounded
      · intro other plain
        rw [listed other]
        exact shown other plain
      · rw [authorizations]
        exact granted
    · refine Replayed.deleted replayed recorded present ?_ ?_ log passed.grown
      · intro other plain
        rw [listed other]
        exact shown other plain
      · rw [authorizations]
        exact ended
    · refine Replayed.quiet replayed ?_ (authorizations.trans kept) log ?_ passed.grown
      · intro other plain
        rw [listed other]
        exact shown other plain
      · intro other there
        rw [List.mem_singleton.mp there]
        exact silent

/-- An action that needs no session creates and deletes nothing. -/
theorem silent_of_sessionless {action : AuditAction} (sessionless : action ∈ sessionlessActions) :
    action ∉ lifecycleActions := by
  cases action <;> simp [sessionlessActions] at sessionless <;> decide

/-- A script that leaves the resources alone. -/
theorem replays_perform (replayed : AuditReplayed app) {Answer : Type}
    {script : Script AdminTables AdminSequences AdminChange Answer}
    {plan : List UnitOfWork.Outcome}
    {holds : AuditLog → Prop} {areas : List Area} (apart : Area.resources ∉ areas)
    (silent : ∀ row, holds row → row.action ∉ lifecycleActions)
    (kept : KeptOutside areas holds app.tables (app.perform script plan).tables) :
    AuditReplayed (app.perform script plan) := by
  obtain ⟨others, rows, log, all⟩ := kept
  exact replayed.aside (others .resources apart) log (fun row listed => silent row (all row listed))
    (passed_perform replayed script plan).grown

/-- A step that changes the resources no more than it moves the sequences. -/
theorem replays_logged (replayed : AuditReplayed app) {next : Application} {rows : List AuditLog}
    (kept : ResourcesKept app.tables next.tables)
    (log : next.tables.auditLog = app.tables.auditLog ++ rows)
    (silent : ∀ row ∈ rows, row.action ∉ lifecycleActions)
    (same : next.sequences = app.sequences) : AuditReplayed next := by
  refine replayed.aside kept log silent fun target => ?_
  rw [same]

/-- The rows of a local login. -/
theorem loginLocal_log {verify : String → String → Bool} {before after : LoginTables} {now : Nat}
    {token : SessionToken} {payload : LoginRequest} {request : ClientRequest}
    (effect : LocalLoginEffect verify before now token payload request after) :
    ∃ rows, after.audit = before.audit ++ rows ∧ ∀ row ∈ rows, row.action ∈ sessionlessActions := by
  cases effect with
  | nothing => exact ⟨[], (List.append_nil _).symm, fun _ listed => absurd listed List.not_mem_nil⟩
  | refused failed =>
    refine ⟨[_], rfl, fun row listed => ?_⟩
    rw [List.mem_singleton.mp listed, failed]
    decide
  | granted listed credentials =>
    refine ⟨[_], rfl, fun row listed => ?_⟩
    rw [List.mem_singleton.mp listed]
    have succeeded : AuditAction.authLoginSucceeded ∈ sessionlessActions := by decide
    exact succeeded

/-- The rows of a SAML login. -/
theorem samlAcs_log {env : SamlEnvironment} {before after : LoginTables} {now : Nat}
    {token : SessionToken} {request : AcsRequest}
    (effect : SamlLoginEffect env before now token request after) :
    ∃ rows, after.audit = before.audit ++ rows ∧ ∀ row ∈ rows, row.action ∈ sessionlessActions := by
  cases effect with
  | nothing => exact ⟨[], (List.append_nil _).symm, fun _ listed => absurd listed List.not_mem_nil⟩
  | refused failed =>
    refine ⟨[_], rfl, fun row listed => ?_⟩
    rw [List.mem_singleton.mp listed, failed]
    decide
  | granted credentials =>
    refine ⟨[_], rfl, fun row listed => ?_⟩
    rw [List.mem_singleton.mp listed]
    have succeeded : AuditAction.authLoginSucceeded ∈ sessionlessActions := by decide
    exact succeeded

/-- A logout adds rows to the log that are about no resource. -/
theorem logout_log (sessions : List WebSession) (audit : List AuditLog) (now : Nat)
    (cookieToken : Option String) (request : ClientRequest) :
    ∃ rows, (logout sessions audit now cookieToken request).1.2 = audit ++ rows ∧
      ∀ row ∈ rows, row.action ∉ lifecycleActions := by
  unfold logout
  split
  · exact ⟨[], (List.append_nil _).symm, fun _ listed => absurd listed List.not_mem_nil⟩
  · dsimp only
    split
    · refine ⟨[_], rfl, fun row listed => ?_⟩
      rw [List.mem_singleton.mp listed]
      have silent : AuditAction.authLogout ∉ lifecycleActions := by decide
      exact silent
    · exact ⟨[], (List.append_nil _).symm, fun _ listed => absurd listed List.not_mem_nil⟩

/-- Every step keeps the invariant. -/
theorem replays_step {next : Application} {label : ApplicationHost fold × ApplicationEvent}
    (replayed : AuditReplayed app) (stepped : Application.step fold app label = some next) :
    AuditReplayed next := by
  obtain ⟨host, event⟩ := label
  cases event with
  | loginLocal now token payload request =>
    obtain rfl := Option.some.inj stepped
    obtain ⟨rows, log, needless⟩ := loginLocal_log (loginLocal_effect host.verify
      host.sessionCookieSecure app.loginTables now token payload request)
    exact replays_logged replayed ⟨rfl, rfl, rfl, rfl⟩ log
      (fun row listed => silent_of_sessionless (needless row listed)) rfl
  | samlAcs now token request =>
    simp only [Application.step] at stepped
    split at stepped
    · obtain rfl := Option.some.inj stepped
      exact replayed
    · obtain rfl := Option.some.inj stepped
      obtain ⟨rows, log, needless⟩ := samlAcs_log
        (samlAcs_effect (app.samlEnvironment host) app.loginTables now token request)
      exact replays_logged replayed ⟨rfl, rfl, rfl, rfl⟩ log
        (fun row listed => silent_of_sessionless (needless row listed)) rfl
  | authenticate now cookieToken request =>
    simp only [Application.step] at stepped
    split at stepped
    all_goals
      obtain rfl := Option.some.inj stepped
      exact replayed
  | perform task plan =>
    simp only [Application.step] at stepped
    split at stepped
    · rename_i command
      obtain rfl := Option.some.inj stepped
      exact replays_perform replayed (by decide)
        (fun row needless => silent_of_sessionless needless) (command_effect host command app plan)
    · rename_i ctx caller
      split at stepped
      · obtain rfl := Option.some.inj stepped
        have passed := passed_perform replayed (task.script host) plan
        rcases task_effect host caller app plan with ⟨version, documented, -, same⟩ | ⟨apart, kept⟩
        · exact replayed.documented documented same passed
        · have after := replays_perform replayed apart (fun row routine => routine.silent) kept
          exact after
      · cases stepped
  | logout now cookieToken request =>
    obtain rfl := Option.some.inj stepped
    obtain ⟨rows, log, silent⟩ :=
      logout_log app.sessions app.tables.auditLog now cookieToken request
    exact replays_logged replayed ⟨rfl, rfl, rfl, rfl⟩ log silent rfl
  | mavisAuth req plan =>
    obtain rfl := Option.some.inj stepped
    exact replays_perform replayed List.not_mem_nil
      (fun row needless => silent_of_sessionless needless)
      (perform_keptOutside (mavisAuth_stages fold host.server req) plan)
  | mavisInfo req deviceOrder authorizationOrder plan =>
    obtain rfl := Option.some.inj stepped
    exact replays_perform replayed List.not_mem_nil
      (fun row needless => silent_of_sessionless needless)
      (perform_keptOutside (mavisInfo_stages fold deviceOrder authorizationOrder req) plan)
  | tick times =>
    obtain rfl := Option.some.inj stepped
    exact replays_logged replayed ⟨rfl, rfl, rfl, rfl⟩ (List.append_nil _).symm
      (fun _ listed => absurd listed List.not_mem_nil) rfl
  | ingest nasIp position =>
    obtain rfl := Option.some.inj stepped
    exact replays_logged replayed ⟨rfl, rfl, rfl, rfl⟩ (List.append_nil _).symm
      (fun _ listed => absurd listed List.not_mem_nil) rfl
  | note writes =>
    obtain rfl := Option.some.inj stepped
    exact replayed

/-- A new installation has no resources and no log. -/
theorem replays_installed : AuditReplayed .installed := by
  have nothing : ∀ target, ¬Created Application.installed.tables.auditLog target ∧
      ¬Deleted Application.installed.tables.auditLog target := by
    intro target
    constructor <;> rintro ⟨row, listed, -⟩ <;> exact absurd listed List.not_mem_nil
  refine ⟨⟨?_, ?_, List.Pairwise.nil⟩, ?_, ?_⟩
  · intro target plain
    refine iff_of_false ?_ fun created => (nothing target).1 created.1
    cases target with
    | authorization id => cases plain
    | _ =>
      rintro ⟨row, listed, -⟩
      exact absurd listed List.not_mem_nil
  · intro authorization
    refine iff_of_false List.not_mem_nil ?_
    rintro ⟨⟨row, listed, -⟩, -⟩
    exact absurd listed List.not_mem_nil
  · exact fun target created => absurd created (nothing target).1
  · exact fun target deleted => absurd deleted (nothing target).2

/-- The resources are what the log says in every run of a new installation. -/
theorem run_replayed {labels : List (ApplicationHost fold × ApplicationEvent)}
    (ran : (Application.step fold).run .installed labels = some app) : AuditReplayed app :=
  Step.run_invariant AuditReplayed (fun _ _ _ kept stepped => replays_step kept stepped)
    replays_installed ran

/-- In every run of a new installation, the resources are what the audit log says: a device, a
device group or a profile exists when its creation is in the log and its deletion is not, an
authorization when its creation is and neither its own deletion nor that of its device group, and no
two rows report the creation or the deletion of the same resource. -/
theorem audit_log_accounts {labels : List (ApplicationHost fold × ApplicationEvent)}
    {final : Application} (ran : (Application.step fold).run .installed labels = some final) :
    AccountedFor final.tables := by
  exact (run_replayed ran).toAccountedFor

end Runs

/-- The first group that the local admin creates is in the log and in its table. -/
theorem audit_log_accounts_group : AccountedFor afterFirstGroup.tables ∧
    (Target.deviceGroup 1).Listed afterFirstGroup.tables ∧
      Created afterFirstGroup.tables.auditLog (.deviceGroup 1) := by
  have ran : (Application.step .ascii).run .installed firstGroup = some afterFirstGroup := rfl
  have listed : (Target.deviceGroup 1).Listed afterFirstGroup.tables :=
    ⟨⟨1, "core", none⟩, List.mem_singleton_self _, rfl⟩
  have accounted := audit_log_accounts ran
  exact ⟨accounted, listed, ((accounted.plain (.deviceGroup 1) rfl).mp listed).1⟩

end TacacsWeb.Verif
