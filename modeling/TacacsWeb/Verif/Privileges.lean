import TacacsWeb.Verif.Attribution
import TacacsWeb.Verif.StepFrames
import TacacsWeb.Verif.SyncFailures

/-!
# Who may do what

The settings and the secrets are only changed by requests of admins, but for the rows that the
background loops write for themselves, and a request acts with the role of a login that came before
it. The role of a SAML login is decided by settings, so this alone would leave open who comes first:
it is the local admin, since a new installation has no settings by which a SAML login could go
through.
-/

namespace TacacsWeb.Verif

open TacacsWeb.Library TacacsWeb.Library.UnitOfWork TacacsWeb.Model

section Callers

variable {fold : CaseFolding} {app next : Application}

/-- Somebody who acts was found by their session. -/
def HasCaller (app : Application) (ctx : SessionContext) : Prop := ctx ∈ app.callers

/-- A session of the state is that of the caller. -/
def FoundBy (app : Application) (_ : ApplicationHost fold × ApplicationEvent)
    (ctx : SessionContext) : Prop :=
  ∃ session ∈ app.sessions, actorOfSession session = actorOfCaller ctx

/-- Who acts after a step acted before it, or was found by a session in it. -/
theorem caller_step {label : ApplicationHost fold × ApplicationEvent}
    (stepped : Application.step fold app label = some next) {ctx : SessionContext}
    (acting : HasCaller next ctx) : HasCaller app ctx ∨ FoundBy app label ctx := by
  obtain ⟨host, event⟩ := label
  cases event with
  | authenticate now cookieToken request =>
    simp only [Application.step] at stepped
    split at stepped
    · obtain rfl := Option.some.inj stepped
      exact .inl acting
    · rename_i after active accepted
      obtain rfl := Option.some.inj stepped
      rcases List.mem_append.mp acting with before | now
      · exact .inl before
      · obtain ⟨row, listed, -, -, -, same⟩ := requireSession_ok accepted
        right
        refine ⟨row, listed, ?_⟩
        rw [List.mem_singleton.mp now, same]
        rfl
  | perform task plan =>
    simp only [Application.step] at stepped
    split at stepped
    · obtain rfl := Option.some.inj stepped
      exact .inl acting
    · split at stepped
      · obtain rfl := Option.some.inj stepped
        exact .inl (List.mem_of_mem_erase acting)
      · cases stepped
  | samlAcs now token request =>
    simp only [Application.step] at stepped
    split at stepped
    all_goals
      obtain rfl := Option.some.inj stepped
      exact .inl acting
  | loginLocal now token payload request =>
    obtain rfl := Option.some.inj stepped
    exact .inl acting
  | logout now cookieToken request =>
    obtain rfl := Option.some.inj stepped
    exact .inl acting
  | mavisAuth req plan =>
    obtain rfl := Option.some.inj stepped
    exact .inl acting
  | mavisInfo req deviceOrder authorizationOrder plan =>
    obtain rfl := Option.some.inj stepped
    exact .inl acting
  | tick times =>
    obtain rfl := Option.some.inj stepped
    exact .inl acting
  | ingest nasIp position =>
    obtain rfl := Option.some.inj stepped
    exact .inl acting
  | note writes =>
    obtain rfl := Option.some.inj stepped
    exact .inl acting

/-- The labels of a run have a login in which the actor got a session. -/
def LoggedInDuring (labels : List (ApplicationHost fold × ApplicationEvent)) (actor : Actor) :
    Prop :=
  ∃ earlier label later before created, labels = earlier ++ label :: later ∧
    (Application.step fold).run .installed earlier = some before ∧
      LoginBehind before label created ∧ actorOfSession created = actor

/-- A login stays in a longer run. -/
theorem LoggedInDuring.append {labels : List (ApplicationHost fold × ApplicationEvent)}
    {actor : Actor} (during : LoggedInDuring labels actor)
    (more : List (ApplicationHost fold × ApplicationEvent)) :
    LoggedInDuring (labels ++ more) actor := by
  obtain ⟨earlier, label, later, before, created, split, reached, login, same⟩ := during
  refine ⟨earlier, label, later ++ more, before, created, ?_, reached, login, same⟩
  rw [split, List.append_assoc, List.cons_append]

/-- Who acts has logged in. -/
theorem caller_loggedIn {labels : List (ApplicationHost fold × ApplicationEvent)}
    (ran : (Application.step fold).run .installed labels = some app) {ctx : SessionContext}
    (acting : HasCaller app ctx) : LoggedInDuring labels (actorOfCaller ctx) := by
  have brought := Step.run_origin HasCaller FoundBy
    (fun before label next ctx stepped held => caller_step stepped held) ran acting
  rcases brought with absent | ⟨front, found, back, middle, split, reached, session, listed, same⟩
  · exact absurd absent List.not_mem_nil
  · have stored : StoresSession middle (asCreated session) := ⟨session, listed, rfl⟩
    obtain ⟨earlier, label, later, before, within, start, login⟩ := stored_by_login reached stored
    have during : LoggedInDuring front (actorOfCaller ctx) :=
      ⟨earlier, label, later, before, asCreated session, within, start, login, same⟩
    rw [split]
    exact during.append (found :: back)

/-- In every run of a new installation, a step that changes a setting or a secret, but for the rows
in which the sync and the background loops note how far they are, is the handler of an admin, who
got a session with the role of an admin in a login before it. -/
theorem settings_by_admin {labels : List (ApplicationHost fold × ApplicationEvent)}
    (ran : (Application.step fold).run .installed labels = some app)
    {host : ApplicationHost fold} {event : ApplicationEvent}
    (stepped : Application.step fold app (host, event) = some next)
    (changed : ¬Area.settings.Same app.tables next.tables) :
    ∃ task plan ctx, event = .perform task plan ∧ task.caller = some ctx ∧ ctx.role = "admin" ∧
      LoggedInDuring labels (actorOfCaller ctx) := by
  have written : Area.settings ∈ ApplicationEvent.areas event :=
    by_contra fun outside => changed (step_same stepped outside)
  cases event with
  | perform task plan =>
    have admin : ∃ ctx, task.caller = some ctx ∧ ctx.role = "admin" := by
      have ofAdmin : ∀ ctx : SessionContext, ∀ areas, Area.settings ∈ adminAreas ctx areas →
          ctx.role = "admin" := by
        intro ctx areas within
        unfold adminAreas at within
        split at within
        · assumption
        · exact absurd within List.not_mem_nil
      cases task with
      | audited operation =>
        cases operation with
        | put ctx settings => exact ⟨ctx, rfl, ofAdmin ctx _ written⟩
        | runNow ctx times => exact ⟨ctx, rfl, ofAdmin ctx _ written⟩
        | request ctx asked =>
          simp [ApplicationEvent.areas, ApplicationTask.areas, resourceAreas] at written
        | deleteDeviceGroup ctx id =>
          simp [ApplicationEvent.areas, ApplicationTask.areas, resourceAreas] at written
        | bootstrapAdmin username password resetPassword =>
          simp [ApplicationEvent.areas, ApplicationTask.areas] at written
      | spKeypair ctx payload tools => exact ⟨ctx, rfl, ofAdmin ctx _ written⟩
      | maintain ctx asked => exact ⟨ctx, rfl, ofAdmin ctx _ written⟩
      | regenerate ctx writable => simp [ApplicationEvent.areas, ApplicationTask.areas] at written
    obtain ⟨ctx, caller, role⟩ := admin
    refine ⟨task, plan, ctx, rfl, caller, role, caller_loggedIn ran ?_⟩
    simp only [Application.step, caller] at stepped
    split at stepped
    · assumption
    · cases stepped
  | _ => simp [ApplicationEvent.areas] at written

end Callers

/-- The address is short enough. -/
theorem baseUrl_length : "https://tacacs.corp".length ≤ 512 := by decide

/-- The address has a scheme. -/
theorem baseUrl_scheme : (Text.startsWith "http://" "https://tacacs.corp" ||
    Text.startsWith "https://" "https://tacacs.corp") = true := by decide

/-- The address of the web interface is set. -/
def putBaseUrl : ApplicationEvent :=
  .perform (.audited (.put adminCaller
    (.web ⟨"https://tacacs.corp", baseUrl_length, baseUrl_scheme⟩))) []

/-- The local admin has logged in and sends a request. -/
def firstRequest : List (ApplicationHost .ascii × ApplicationEvent) :=
  firstLogin ++ [(siteAtWork, .authenticate 60 (some sampleToken.value) browser)]

/-- The application in which the handler of the sample's first request is to run. -/
def duringFirstRequest : Application :=
  ((Application.step .ascii).run .installed firstRequest).getD .installed

/-- The first setting is written by the local admin. -/
theorem settings_by_admin_first : ∃ task plan ctx, putBaseUrl = .perform task plan ∧
    task.caller = some ctx ∧ ctx.role = "admin" ∧
      LoggedInDuring firstRequest (actorOfCaller ctx) := by
  have ran : (Application.step .ascii).run .installed firstRequest = some duringFirstRequest := rfl
  have stepped : Application.step .ascii duringFirstRequest (siteAtWork, putBaseUrl) = some _ := rfl
  refine settings_by_admin ran stepped fun same => ?_
  have addresses := congrArg (fun settings => settings.get? "web.base_url") same.1
  exact absurd addresses (by decide +kernel)

/-! ## Who comes first -/

/-- The parts that are written without a login: the local admin, by the command line, and what the
background loops write. -/
def loginlessAreas : List Area := [.localAdmin, .syncResult, .accounting]

/-- Nobody has a session or acts, and there are no resources, identities, settings or secrets. -/
structure Unopened (app : Application) : Prop where
  /-- `web_session`. -/
  sessions : app.sessions = []
  /-- The callers. -/
  callers : app.callers = []
  /-- The database. -/
  empty : ∀ area ∉ loginlessAreas, area.Same Application.emptyTables app.tables

section First

variable {fold : CaseFolding} {app next : Application}

/-- The step is a login of the local admin. -/
def LocalLoginBehind (app : Application) (label : ApplicationHost fold × ApplicationEvent) : Prop :=
  ∃ created, LoginBehind app label created ∧ created.authMethod = .localAdmin

/-- Without settings there are no SAML logins. -/
theorem Unopened.not_configured (unopened : Unopened app) (host : ApplicationHost fold) :
    ∃ text, loadSamlConfig (app.samlEnvironment host).settings = .error text := by
  have settings : app.tables.systemSettings = ∅ :=
    (unopened.empty .settings (by decide)).1
  unfold loadSamlConfig
  dsimp only [Application.samlEnvironment]
  rw [settings]
  split
  · exact ⟨_, rfl⟩
  · exact ⟨_, rfl⟩

/-- A step that adds no session and no caller keeps the application unopened, if what it may write
is not among the parts that are empty. -/
theorem Unopened.keep (unopened : Unopened app) {host : ApplicationHost fold}
    {event : ApplicationEvent} (stepped : Application.step fold app (host, event) = some next)
    (areas : ∀ area ∈ ApplicationEvent.areas event, area ∈ loginlessAreas)
    (sessions : next.sessions = []) (callers : next.callers = []) : Unopened next := by
  refine ⟨sessions, callers, fun area other => ?_⟩
  have outside : area ∉ ApplicationEvent.areas event := fun within => other (areas area within)
  exact (unopened.empty area other).trans (step_same stepped outside)

/-- Without settings a tick of the scheduler finds no directory. -/
theorem Unopened.tick (unopened : Unopened app) (host : SyncHost) (times : RunTimes) :
    (tick host app.tables.syncStore times).identity = app.tables.identity := by
  have settings : app.tables.syncStore.systemSettings = ∅ :=
    (unopened.empty .settings (by decide)).1
  have unconfigured : loadConfig host.fold host.loads app.tables.syncStore.systemSettings =
      .ok none := by
    rw [settings]
    rfl
  have failed : runFullSync host app.tables.syncStore times =
      .error (.syncRunError "LDAP sync is not configured") := by
    unfold runFullSync
    rw [unconfigured]
  exact (tick_records failed).1

/-- Nobody acts after a step of an unopened application. -/
theorem Unopened.callers_step (unopened : Unopened app)
    {label : ApplicationHost fold × ApplicationEvent}
    (stepped : Application.step fold app label = some next) : next.callers = [] := by
  rw [List.eq_nil_iff_forall_not_mem]
  intro ctx acting
  rcases caller_step stepped acting with before | ⟨session, listed, -⟩
  · rw [HasCaller, unopened.callers] at before
    exact absurd before List.not_mem_nil
  · rw [unopened.sessions] at listed
    exact absurd listed List.not_mem_nil

/-- A session after a step of an unopened application is from a login of the local admin. -/
theorem Unopened.sessions_step (unopened : Unopened app)
    {label : ApplicationHost fold × ApplicationEvent}
    (stepped : Application.step fold app label = some next) :
    next.sessions = [] ∨ LocalLoginBehind app label := by
  cases found : next.sessions with
  | nil => exact .inl rfl
  | cons row others =>
    right
    have stored : StoresSession next (asCreated row) := by
      refine ⟨row, ?_, rfl⟩
      rw [found]
      exact List.mem_cons_self
    rcases stored_step stepped stored with ⟨before, absent, -⟩ | login
    · rw [unopened.sessions] at absent
      exact absurd absent List.not_mem_nil
    · cases method : (asCreated row).authMethod with
      | localAdmin => exact ⟨asCreated row, login, method⟩
      | saml =>
        generalize asCreated row = created at login method
        cases login with
        | localAdmin account credentials => cases method
        | saml credentials =>
          rename_i host now token request name role
          obtain ⟨cfg, -, -, configured, -⟩ := credentials.accepted
          obtain ⟨text, unconfigured⟩ := unopened.not_configured host
          rw [unconfigured] at configured
          cases configured

/-- A step keeps the application unopened, or it is a login of the local admin. -/
theorem unopened_step {label : ApplicationHost fold × ApplicationEvent} (unopened : Unopened app)
    (stepped : Application.step fold app label = some next) :
    Unopened next ∨ LocalLoginBehind app label := by
  rcases unopened.sessions_step stepped with sessions | login
  · left
    have callers : next.callers = [] := unopened.callers_step stepped
    obtain ⟨host, event⟩ := label
    cases event with
    | perform task plan =>
      refine unopened.keep stepped ?_ sessions callers
      cases caller : task.caller with
      | none =>
        cases task with
        | audited operation =>
          cases operation with
          | bootstrapAdmin username password resetPassword =>
            intro area written
            rw [List.mem_singleton.mp written]
            exact List.mem_cons_self
          | _ => cases caller
        | _ => cases caller
      | some ctx =>
        simp only [Application.step, caller, unopened.callers, List.not_mem_nil,
          if_false] at stepped
        cases stepped
    | tick times =>
      have identity : next.tables.identity = app.tables.identity := by
        obtain rfl := Option.some.inj stepped
        exact unopened.tick host.admin.sync times
      refine ⟨sessions, callers, fun area other => ?_⟩
      refine (unopened.empty area other).trans ?_
      by_cases same : area = .identity
      · rw [same]
        exact identity
      · refine step_same stepped ?_
        simp only [ApplicationEvent.areas, List.mem_cons, List.not_mem_nil, or_false, not_or]
        refine ⟨same, fun result => other ?_⟩
        rw [result]
        exact List.mem_cons_of_mem _ List.mem_cons_self
    | _ =>
      exact unopened.keep stepped (by simp [ApplicationEvent.areas, loginlessAreas]) sessions
        callers
  · exact .inr login

/-- In every run of a new installation, nobody has a session and there is no resource, no identity,
no setting and no secret before the local admin has logged in, but for what the sync and the
background loops note and the accounting records: whatever there is, a login of the local admin came
before it, and up to the first of these there was nothing. -/
theorem opened_by_local_admin {labels : List (ApplicationHost fold × ApplicationEvent)}
    (ran : (Application.step fold).run .installed labels = some app) (opened : ¬Unopened app) :
    ∃ earlier label later before, labels = earlier ++ label :: later ∧
      (Application.step fold).run .installed earlier = some before ∧ Unopened before ∧
        LocalLoginBehind before label := by
  have brought : ∀ (state : Application) (label : ApplicationHost fold × ApplicationEvent)
      (after : Application), Application.step fold state label = some after →
        ¬Unopened after → ¬Unopened state ∨ Unopened state ∧ LocalLoginBehind state label := by
    intro state label after stepped openedAfter
    by_cases unopened : Unopened state
    · rcases unopened_step unopened stepped with kept | login
      · exact absurd kept openedAfter
      · exact .inr ⟨unopened, login⟩
    · exact .inl unopened
  rcases Step.run_brought (fun state => ¬Unopened state)
    (fun state label => Unopened state ∧ LocalLoginBehind state label) brought ran opened with
    never | ⟨earlier, label, later, before, split, reached, unopened, login⟩
  · have start : Unopened Application.installed :=
      ⟨rfl, rfl, fun area _ => Area.Same.refl _ area⟩
    exact absurd start never
  · exact ⟨earlier, label, later, before, split, reached, unopened, login⟩

/-- The first device group comes after the first login. -/
theorem opened_by_local_admin_group : ∃ earlier label later before,
    firstGroup = earlier ++ label :: later ∧
      (Application.step .ascii).run .installed earlier = some before ∧ Unopened before ∧
        LocalLoginBehind before label := by
  have ran : (Application.step .ascii).run .installed firstGroup = some afterFirstGroup := rfl
  have opened : ¬Unopened afterFirstGroup := by
    intro unopened
    have sessions := congrArg List.length unopened.sessions
    exact absurd sessions (by decide +kernel)
  exact opened_by_local_admin ran opened

end First

end TacacsWeb.Verif
