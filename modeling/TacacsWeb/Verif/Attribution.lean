import TacacsWeb.Verif.LoginProvenance
import TacacsWeb.Verif.RegexLiterals
import TacacsWeb.Verif.TaskEffects

/-!
# Who did what

Every row of the audit log about something that was done with a session names an account that had
logged in before, under the same role and by the same method. A handler puts only rows with the
identity of its caller into the log, a caller has the identity of a session, and a session is
created together with the audit row of its login.
-/

namespace TacacsWeb.Verif

open TacacsWeb.Library TacacsWeb.Library.UnitOfWork TacacsWeb.Model

/-- The actor of a session. -/
def actorOfSession (session : WebSession) : Actor :=
  ⟨session.usernameSnapshot, session.role, session.authMethod.code, session.localAdminId⟩

/-- The log records a login of the actor. -/
def RecordsLogin (log : List AuditLog) (actor : Actor) : Prop :=
  ∃ login ∈ log, login.action = .authLoginSucceeded ∧ actorOfRow login = actor

/-- Every row about something that was done with a session comes after a login of its actor. -/
def Attributed (log : List AuditLog) : Prop :=
  ∀ before row after, log = before ++ row :: after → row.action ∉ sessionlessActions →
    RecordsLogin before (actorOfRow row)

/-- A login stays in the log. -/
theorem RecordsLogin.append {log : List AuditLog} {actor : Actor}
    (recorded : RecordsLogin log actor) (rows : List AuditLog) :
    RecordsLogin (log ++ rows) actor := by
  obtain ⟨login, listed, action, same⟩ := recorded
  exact ⟨login, List.mem_append_left rows listed, action, same⟩

/-- Rows that follow logins of their actors may be added to the log. -/
theorem Attributed.append {log rows : List AuditLog} (attributed : Attributed log)
    (later : ∀ row ∈ rows, row.action ∉ sessionlessActions → RecordsLogin log (actorOfRow row)) :
    Attributed (log ++ rows) := by
  intro before row after split session
  rcases List.append_eq_append_iff.mp split with ⟨added, same, rest⟩ | ⟨kept, same, rest⟩
  · -- The row is one of the new ones, and what is before it begins with the old log.
    have listed : row ∈ rows := by
      rw [rest]
      exact List.mem_append_right _ List.mem_cons_self
    rw [same]
    exact (later row listed session).append added
  · cases kept with
    | nil =>
      have listed : row ∈ rows := by
        have first : row :: after = rows := by simpa using rest
        rw [← first]
        exact List.mem_cons_self
      have whole : log = before := by simpa using same
      rw [← whole]
      exact later row listed session
    | cons first others =>
      have shape : row = first ∧ after = others ++ rows := by simpa using rest
      rw [← shape.1] at same
      exact attributed before row others same session

/-! ## The invariant -/

/-- Sessions and callers have logins behind them, and so has the log. -/
structure Backed (app : Application) : Prop where
  /-- Sessions. -/
  sessions : ∀ session ∈ app.sessions,
    RecordsLogin app.tables.auditLog (actorOfSession session)
  /-- Callers. -/
  callers : ∀ ctx ∈ app.callers, RecordsLogin app.tables.auditLog (actorOfCaller ctx)
  /-- The audit log. -/
  log : Attributed app.tables.auditLog

/-- The actor has a session, or is a caller whose session has been found. -/
def Present (app : Application) (actor : Actor) : Prop :=
  (∃ session ∈ app.sessions, actorOfSession session = actor) ∨
    ∃ ctx ∈ app.callers, actorOfCaller ctx = actor

/-- Who is present has logged in. -/
theorem Backed.present {app : Application} (backed : Backed app) {actor : Actor}
    (present : Present app actor) : RecordsLogin app.tables.auditLog actor := by
  rcases present with ⟨session, listed, same⟩ | ⟨ctx, listed, same⟩
  · rw [← same]
    exact backed.sessions session listed
  · rw [← same]
    exact backed.callers ctx listed

/-- The invariant is kept when the log grows, those who are present were so before or have just
logged in, and the new rows are about who was present. -/
theorem Backed.extend {app next : Application} (backed : Backed app) {rows : List AuditLog}
    (log : next.tables.auditLog = app.tables.auditLog ++ rows)
    (arrived : ∀ actor, Present next actor → Present app actor ∨ RecordsLogin rows actor)
    (own : ∀ row ∈ rows, row.action ∉ sessionlessActions → Present app (actorOfRow row)) :
    Backed next := by
  have recorded : ∀ actor, Present next actor → RecordsLogin next.tables.auditLog actor := by
    intro actor present
    rw [log]
    rcases arrived actor present with before | now
    · exact (backed.present before).append rows
    · obtain ⟨login, listed, action, same⟩ := now
      exact ⟨login, List.mem_append_right _ listed, action, same⟩
  refine ⟨?_, ?_, ?_⟩
  · intro session listed
    exact recorded _ (.inl ⟨session, listed, rfl⟩)
  · intro ctx listed
    exact recorded _ (.inr ⟨ctx, listed, rfl⟩)
  · rw [log]
    exact backed.log.append fun row listed session => backed.present (own row listed session)

/-- The invariant is kept when nothing is logged and nobody arrives. -/
theorem Backed.same {app next : Application} (backed : Backed app)
    (log : next.tables.auditLog = app.tables.auditLog)
    (arrived : ∀ actor, Present next actor → Present app actor) : Backed next := by
  have grown : next.tables.auditLog = app.tables.auditLog ++ [] := by rw [log, List.append_nil]
  refine backed.extend grown (fun actor present => .inl (arrived actor present)) ?_
  · exact fun row listed => absurd listed List.not_mem_nil

/-! ## Steps -/

section Steps

variable {fold : CaseFolding} {app : Application}

/-- Who is present with one session more. -/
theorem present_append {tables : AdminTables} {session : WebSession} {actor : Actor}
    (present : Present { app with tables := tables, sessions := app.sessions ++ [session] } actor) :
    Present app actor ∨ actorOfSession session = actor := by
  rcases present with ⟨found, listed, same⟩ | caller
  · rcases List.mem_append.mp listed with old | new
    · exact .inl (.inl ⟨found, old, same⟩)
    · rw [← List.mem_singleton.mp new]
      exact .inr same
  · exact .inl (.inr caller)

/-- A row that needs no session may be added by anyone. -/
theorem present_of_sessionless {row : AuditLog} (sessionless : row.action ∈ sessionlessActions) :
    ∀ other ∈ [row], other.action ∉ sessionlessActions → Present app (actorOfRow other) := by
  intro other listed session
  rw [List.mem_singleton.mp listed] at session
  exact absurd sessionless session

/-- A session that is created together with the audit row of its login. -/
theorem Backed.login (backed : Backed app) {tables : AdminTables} {session : WebSession}
    {row : AuditLog} (log : tables.auditLog = app.tables.auditLog ++ [row])
    (succeeded : row.action = .authLoginSucceeded)
    (same : actorOfRow row = actorOfSession session) :
    Backed { app with tables := tables, sessions := app.sessions ++ [session] } := by
  refine backed.extend log ?_ (present_of_sessionless ?_)
  · intro actor present
    rcases present_append present with before | now
    · exact .inl before
    · exact .inr ⟨row, List.mem_singleton_self row, succeeded, same.trans now⟩
  · rw [succeeded]
    decide

/-- A login that is refused. -/
theorem Backed.refusal (backed : Backed app) {tables : AdminTables} {row : AuditLog}
    (log : tables.auditLog = app.tables.auditLog ++ [row])
    (failed : row.action = .authLoginFailed) : Backed { app with tables := tables } := by
  refine backed.extend log (fun actor present => .inl present) (present_of_sessionless ?_)
  rw [failed]
  decide

/-- After a local login whoever is present has a recorded login. -/
theorem backed_loginLocal (backed : Backed app) {verify : String → String → Bool} {now : Nat}
    {token : SessionToken} {payload : LoginRequest} {request : ClientRequest} {after : LoginTables}
    (effect : LocalLoginEffect verify app.loginTables now token payload request after) :
    Backed (app.afterLogin after) := by
  cases effect with
  | nothing => exact backed.same rfl fun actor present => present
  | refused failed => exact backed.refusal rfl failed
  | granted listed credentials => exact backed.login rfl rfl rfl

/-- After a SAML login whoever is present has a recorded login. -/
theorem backed_samlAcs (backed : Backed app) {env : SamlEnvironment} {now : Nat}
    {token : SessionToken} {request : AcsRequest} {after : LoginTables}
    (effect : SamlLoginEffect env app.loginTables now token request after) :
    Backed (app.afterLogin after) := by
  cases effect with
  | nothing => exact backed.same rfl fun actor present => present
  | refused failed => exact backed.refusal rfl failed
  | granted credentials => exact backed.login rfl rfl rfl

/-- What is in a session from its creation on includes its actor. -/
theorem actorOfSession_asCreated {first second : WebSession}
    (same : asCreated first = asCreated second) : actorOfSession first = actorOfSession second := by
  have actors := congrArg actorOfSession same
  exact actors

/-- Whoever has a session after the session check had one before. -/
theorem present_requireSession {now : Nat} {cookieToken : Option String} {request : ClientRequest}
    {session : WebSession}
    (listed : session ∈ (requireSession app.sessions now cookieToken request).1) :
    Present app (actorOfSession session) := by
  obtain ⟨before, there, same⟩ := requireSession_asCreated listed
  exact .inl ⟨before, there, actorOfSession_asCreated same⟩

/-- A request that passes the session check acts for someone who has a session. -/
theorem present_active {now : Nat} {cookieToken : Option String} {request : ClientRequest}
    {after : List WebSession} {active : ActiveSession}
    (accepted : requireSession app.sessions now cookieToken request = (after, .ok active)) :
    Present app (actorOfCaller active.toSessionContext) := by
  obtain ⟨row, listed, -, -, -, acting⟩ := requireSession_ok accepted
  refine .inl ⟨row, listed, ?_⟩
  rw [acting]
  rfl

/-- After a logout whoever is present has a recorded login. -/
theorem backed_logout (backed : Backed app) (now : Nat) (cookieToken : Option String)
    (request : ClientRequest) :
    Backed { app with
      tables := { app.tables with
        auditLog := (logout app.sessions app.tables.auditLog now cookieToken request).1.2 }
      sessions := (logout app.sessions app.tables.auditLog now cookieToken request).1.1 } := by
  have stays : ∀ actor, Present { app with
      tables := { app.tables with
        auditLog := (logout app.sessions app.tables.auditLog now cookieToken request).1.2 }
      sessions := (logout app.sessions app.tables.auditLog now cookieToken request).1.1 } actor →
      Present app actor := by
    rintro actor (⟨session, listed, same⟩ | caller)
    · obtain ⟨before, there, slides⟩ := logout_asCreated listed
      exact .inl ⟨before, there, (actorOfSession_asCreated slides).trans same⟩
    · exact .inr caller
  have logged : ∃ rows, (logout app.sessions app.tables.auditLog now cookieToken request).1.2 =
      app.tables.auditLog ++ rows ∧ ∀ row ∈ rows, Present app (actorOfRow row) := by
    unfold logout
    split
    · exact ⟨[], (List.append_nil _).symm, fun _ listed => absurd listed List.not_mem_nil⟩
    · rename_i after ctx accepted
      have present := present_active accepted
      dsimp only
      split
      · refine ⟨[_], rfl, fun row listed => ?_⟩
        rw [List.mem_singleton.mp listed]
        exact present
      · exact ⟨[], (List.append_nil _).symm, fun _ listed => absurd listed List.not_mem_nil⟩
  obtain ⟨rows, log, own⟩ := logged
  exact backed.extend log (fun actor present => .inl (stays actor present))
    fun row listed _ => own row listed

/-- Only what is no audit row is documented, so the row of a documented change is the only new
one. -/
theorem documented_log {ctx : SessionContext} {tables : AdminTables} {sequences : AdminSequences}
    {version : Version AdminTables AdminChange}
    (documented : CommitsDocumented ctx tables sequences version) :
    ∃ rows, version.tables.auditLog = tables.auditLog ++ rows ∧ ∀ row ∈ rows, ByCaller ctx row := by
  cases documented with
  | untouched =>
    exact ⟨[], (List.append_nil _).symm, fun _ listed => absurd listed List.not_mem_nil⟩
  | changed both taken documents own =>
    rename_i change after rowId moved row
    have plain : change.isAudit = false := by cases documents <;> rfl
    refine ⟨[row], ?_, ?_⟩
    · change after.auditLog ++ [row] = _
      rw [adminEngine_auditLog plain taken]
    · intro other listed
      rw [List.mem_singleton.mp listed]
      exact own

/-- The task of a caller. -/
theorem backed_task (backed : Backed app) (host : ApplicationHost fold) {task : ApplicationTask}
    {ctx : SessionContext} (caller : task.caller = some ctx) (present : ctx ∈ app.callers)
    (plan : List UnitOfWork.Outcome) :
    Backed { app.perform (task.script host) plan with callers := app.callers.erase ctx } := by
  have logged : ∃ rows, (app.perform (task.script host) plan).tables.auditLog =
      app.tables.auditLog ++ rows ∧ ∀ row ∈ rows, ByCaller ctx row := by
    rcases task_effect host caller app plan with ⟨version, documented, -, same⟩ | ⟨-, kept⟩
    · rw [same]
      exact documented_log documented
    · obtain ⟨rows, log, routine⟩ := kept.auditLog
      exact ⟨rows, log, fun row listed => (routine row listed).own⟩
  obtain ⟨rows, log, own⟩ := logged
  refine backed.extend log ?_ ?_
  · rintro actor (session | ⟨other, listed, same⟩)
    · exact .inl (.inl session)
    · exact .inl (.inr ⟨other, List.mem_of_mem_erase listed, same⟩)
  · intro row listed _
    exact .inr ⟨ctx, present, (own row listed).actor.symm⟩

/-- A script whose rows need no session. -/
theorem backed_perform (backed : Backed app) {Answer : Type}
    {script : Script AdminTables AdminSequences AdminChange Answer}
    {plan : List UnitOfWork.Outcome}
    {areas : List Area}
    (kept : KeptOutside areas Sessionless app.tables (app.perform script plan).tables) :
    Backed (app.perform script plan) := by
  obtain ⟨rows, log, sessionless⟩ := kept.auditLog
  refine backed.extend log (fun actor present => .inl present) fun row listed session => ?_
  exact absurd (sessionless row listed) session

/-- Every step keeps the invariant. -/
theorem backed_step {next : Application} {label : ApplicationHost fold × ApplicationEvent}
    (backed : Backed app) (stepped : Application.step fold app label = some next) :
    Backed next := by
  obtain ⟨host, event⟩ := label
  cases event with
  | loginLocal now token payload request =>
    obtain rfl := Option.some.inj stepped
    exact backed_loginLocal backed (loginLocal_effect _ _ _ _ _ _ _)
  | samlAcs now token request =>
    simp only [Application.step] at stepped
    split at stepped
    · obtain rfl := Option.some.inj stepped
      exact backed
    · obtain rfl := Option.some.inj stepped
      exact backed_samlAcs backed (samlAcs_effect _ _ _ _ _)
  | authenticate now cookieToken request =>
    have checked := @present_requireSession app now cookieToken request
    simp only [Application.step] at stepped
    split at stepped
    · rename_i after error answered
      obtain rfl := Option.some.inj stepped
      rw [answered] at checked
      refine backed.same rfl ?_
      rintro actor (⟨session, listed, same⟩ | caller)
      · rw [← same]
        exact checked listed
      · exact .inr caller
    · rename_i after active answered
      obtain rfl := Option.some.inj stepped
      have acting := present_active answered
      rw [answered] at checked
      refine backed.same rfl ?_
      rintro actor (⟨session, listed, same⟩ | ⟨ctx, listed, same⟩)
      · rw [← same]
        exact checked listed
      · rcases List.mem_append.mp listed with old | new
        · exact .inr ⟨ctx, old, same⟩
        · rw [← same, List.mem_singleton.mp new]
          exact acting
  | perform task plan =>
    simp only [Application.step] at stepped
    split at stepped
    · rename_i command
      obtain rfl := Option.some.inj stepped
      exact backed_perform backed (command_effect host command app plan)
    · rename_i ctx caller
      split at stepped
      · rename_i present
        obtain rfl := Option.some.inj stepped
        exact backed_task backed host caller present plan
      · cases stepped
  | logout now cookieToken request =>
    obtain rfl := Option.some.inj stepped
    exact backed_logout backed now cookieToken request
  | mavisAuth req plan =>
    obtain rfl := Option.some.inj stepped
    exact backed_perform backed (perform_keptOutside (mavisAuth_stages fold host.server req) plan)
  | mavisInfo req deviceOrder authorizationOrder plan =>
    obtain rfl := Option.some.inj stepped
    exact backed_perform backed
      (perform_keptOutside (mavisInfo_stages fold deviceOrder authorizationOrder req) plan)
  | tick times =>
    obtain rfl := Option.some.inj stepped
    exact backed.same rfl fun actor present => present
  | ingest nasIp position =>
    obtain rfl := Option.some.inj stepped
    exact backed.same rfl fun actor present => present
  | note writes =>
    obtain rfl := Option.some.inj stepped
    exact backed.same rfl fun actor present => present

end Steps

/-! ## Runs -/

/-- A new installation has nobody and no log. -/
theorem backed_installed : Backed .installed where
  sessions := fun _ listed => absurd listed List.not_mem_nil
  callers := fun _ listed => absurd listed List.not_mem_nil
  log := by
    intro before row after split
    have lengths := congrArg List.length split
    simp [Application.installed, Application.emptyTables] at lengths

/-- Sessions, callers and the log are backed in every run of a new installation. -/
theorem run_backed {fold : CaseFolding} {labels : List (ApplicationHost fold × ApplicationEvent)}
    {app : Application} (ran : (Application.step fold).run .installed labels = some app) :
    Backed app :=
  Step.run_invariant Backed (fun _ _ _ kept stepped => backed_step kept stepped) backed_installed
    ran

/-- In every run of a new installation, every audit row but those of logins, of MAVIS requests and
of the command line comes after the row of a login that went through, of the same name, role, method
and account. -/
theorem actions_attributed {fold : CaseFolding}
    {labels : List (ApplicationHost fold × ApplicationEvent)} {app : Application}
    (ran : (Application.step fold).run .installed labels = some app) {before after : List AuditLog}
    {row : AuditLog} (logged : app.tables.auditLog = before ++ row :: after)
    (session : row.action ∉ sessionlessActions) :
    ∃ login ∈ before, login.action = .authLoginSucceeded ∧ actorOfRow login = actorOfRow row := by
  exact (run_backed ran).log before row after logged session

/-- The caller that the local admin is at their browser. -/
def adminCaller : SessionContext :=
  ⟨"admin", "admin", "local", some 1, some "10.0.0.9", some "Mozilla/5.0"⟩

/-- The name of the group may be given. -/
theorem coreName_length : 1 ≤ "core".length ∧ "core".length ≤ 128 := by decide

/-- The local admin is created, logs in and creates a device group. -/
def firstGroup : List (ApplicationHost .ascii × ApplicationEvent) :=
  firstLogin ++
    [(siteAtWork, .authenticate 60 (some sampleToken.value) browser),
      (siteAtWork, .perform (.audited (.request adminCaller
        (.createDeviceGroup ⟨"core", none, coreName_length, undescribed_length⟩))) [])]

/-- The application after that. -/
def afterFirstGroup : Application :=
  ((Application.step .ascii).run .installed firstGroup).getD .installed

/-- The row about the group comes after the row of the login. -/
theorem actions_attributed_group : ∃ before row,
    afterFirstGroup.tables.auditLog = before ++ row :: [] ∧ row.action = .deviceGroupCreated ∧
      ∃ login ∈ before, login.action = .authLoginSucceeded ∧ actorOfRow login = actorOfRow row := by
  have ran : (Application.step .ascii).run .installed firstGroup = some afterFirstGroup := rfl
  have logged : afterFirstGroup.tables.auditLog =
      afterFirstGroup.tables.auditLog.take 2 ++ appendCrud adminCaller .deviceGroupCreated
        "device_group" 1 (some "core") :: [] := by decide +kernel
  exact ⟨_, _, logged, rfl, actions_attributed ran logged (by decide)⟩

end TacacsWeb.Verif
