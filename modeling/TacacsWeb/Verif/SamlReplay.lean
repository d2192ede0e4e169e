import TacacsWeb.Model.SamlRuns
import TacacsWeb.Verif.LoginAudit

/-!
# The use of a SAML assertion

The handlers keep no record of the assertions they have seen. Whether a posted response makes
a session depends on the response, the time and the synced tables alone, so an assertion makes
as many sessions as it is posted while it is accepted.
-/

namespace TacacsWeb.Verif

open TacacsWeb.Library TacacsWeb.Model

/-- The user of a name has a role, and the name and the request fit their columns. -/
def NameLogsIn (env : SamlEnvironment) (cfg : SamlConfig) (request : AcsRequest)
    (nameId : String) : Prop :=
  ∃ groupValues role, syncedGroupDns env.fold env.identity nameId = .ok (some groupValues) ∧
    resolveRole env.fold groupValues cfg.roleMappings = some role ∧
    textFits (some 256) (some nameId) = true ∧ ClientRequest.Fits request.toClientRequest

/-- A posted response is accepted at this time, and its name logs in. -/
def LogsIn (env : SamlEnvironment) (now : Nat) (request : AcsRequest) : Prop :=
  ∃ cfg result, loadSamlConfig env.settings = .ok cfg ∧
    env.toolkit.processResponse cfg request.postData now = some result ∧
    result.errors = [] ∧ result.authenticated = true ∧
    NameLogsIn env cfg request ((nonempty result.nameId).getD "<unknown>")

/-- Two requests post the same assertion, and both log in. -/
def Replays (env : SamlEnvironment) : Nat × SamlEvent → Nat × SamlEvent → Prop
  | (first, .acs _ firstRequest), (second, .acs _ secondRequest) =>
    LogsIn env first firstRequest ∧ LogsIn env second secondRequest ∧
      ∃ id, assertionOf env first firstRequest = some id ∧
        assertionOf env second secondRequest = some id
  | _, _ => False

/-- No two sessions came from one assertion. -/
def SingleUse (state : SamlSystem) : Prop :=
  state.created.Pairwise fun first second => ∀ id, first.1 = some id → second.1 ≠ some id

/-- What a commit at the end of a handler leaves in `web_session`. -/
theorem sessions_commit {Answer : Type} {tables staged : LoginTables}
    {session : Option WebSession} {row : AuditLog} {answer : LoginTables → Except HttpError Answer}
    (sessions : staged.sessions = tables.sessions) :
    (match commitLogin staged session row with
        | .error error => ((tables, .error error) : LoginTables × Except HttpError Answer)
        | .ok after => (after, answer after)).1.sessions =
      tables.sessions ++
        if (session.all WebSession.fits && row.fits) = true then session.toList else [] := by
  rw [commitLogin]
  by_cases fits : (session.all WebSession.fits && row.fits) = true
  · rw [if_pos fits, if_pos fits]
    exact congrArg (· ++ session.toList) sessions
  · rw [if_neg fits, if_neg fits, List.append_nil]

/-- A refusal creates no session. -/
theorem samlAcs_refuse_sessions (tables : LoginTables) (row : AuditLog) (answer : HttpError) :
    (samlAcs.refuse tables row answer).1.sessions = tables.sessions := by
  have committed : (samlAcs.refuse tables row answer).1.sessions = tables.sessions ++
      if ((none : Option WebSession).all WebSession.fits && row.fits) = true then [] else [] :=
    sessions_commit rfl
  simpa using committed

/-- A valid response creates one session when its name logs in, and none otherwise. -/
theorem samlAcs_admit_sessions (env : SamlEnvironment) (tables : LoginTables) (now : Nat)
    (token : SessionToken) (request : AcsRequest) (cfg : SamlConfig) (nameId : String) :
    (NameLogsIn env cfg request nameId ∧ ∃ session,
        (samlAcs.enrol env tables now token request cfg nameId).1.sessions =
          tables.sessions ++ [session]) ∨
      ¬NameLogsIn env cfg request nameId ∧
        (samlAcs.enrol env tables now token request cfg nameId).1.sessions = tables.sessions := by
  unfold samlAcs.enrol
  cases looked : syncedGroupDns env.fold env.identity nameId with
  | error error =>
    refine .inr ⟨fun ⟨_, _, synced, _⟩ => ?_, rfl⟩
    cases looked.symm.trans synced
  | ok found =>
    cases found with
    | none =>
      refine .inr ⟨fun ⟨_, _, synced, _⟩ => ?_, samlAcs_refuse_sessions _ _ _⟩
      cases looked.symm.trans synced
    | some groupValues =>
      dsimp only
      cases mapped : resolveRole env.fold groupValues cfg.roleMappings with
      | none =>
        refine .inr ⟨fun ⟨_, _, synced, roled, _⟩ => ?_, samlAcs_refuse_sessions _ _ _⟩
        obtain rfl := Option.some.inj (Except.ok.inj (looked.symm.trans synced))
        cases mapped.symm.trans roled
      | some role =>
        dsimp only
        have fits := samlLogin_fits env now token request nameId groupValues role
        rw [commitLogin, Option.all_some]
        by_cases stored :
            textFits (some 256) (some nameId) = true ∧ ClientRequest.Fits request.toClientRequest
        · rw [if_pos (Bool.and_eq_true_iff.mpr (fits.mpr stored))]
          exact .inl ⟨⟨groupValues, role, looked, mapped, stored⟩, _, rfl⟩
        · rw [if_neg fun both => stored (fits.mp (Bool.and_eq_true_iff.mp both))]
          exact .inr ⟨fun ⟨_, _, _, _, named⟩ => stored named, rfl⟩

/-- A posted response creates one session when it logs in, and none otherwise. -/
theorem samlAcs_sessions (env : SamlEnvironment) (tables : LoginTables) (now : Nat)
    (token : SessionToken) (request : AcsRequest) :
    (LogsIn env now request ∧ ∃ session,
        (samlAcs env tables now token request).1.sessions = tables.sessions ++ [session]) ∨
      ¬LogsIn env now request ∧
        (samlAcs env tables now token request).1.sessions = tables.sessions := by
  unfold samlAcs
  cases configured : loadSamlConfig env.settings with
  | error message =>
    refine .inr ⟨fun ⟨_, _, loaded, _⟩ => ?_, rfl⟩
    cases configured.symm.trans loaded
  | ok cfg =>
    dsimp only
    cases read : env.toolkit.processResponse cfg request.postData now with
    | none =>
      refine .inr ⟨fun ⟨_, _, loaded, processed, _⟩ => ?_, rfl⟩
      obtain rfl := Except.ok.inj (configured.symm.trans loaded)
      cases read.symm.trans processed
    | some result =>
      dsimp only
      have logsIn : LogsIn env now request ↔ result.errors = [] ∧ result.authenticated = true ∧
          NameLogsIn env cfg request ((nonempty result.nameId).getD "<unknown>") := by
        refine ⟨fun ⟨_, _, loaded, processed, valid⟩ => ?_, fun valid =>
          ⟨cfg, result, configured, read, valid⟩⟩
        obtain rfl := Except.ok.inj (configured.symm.trans loaded)
        obtain rfl := Option.some.inj (read.symm.trans processed)
        exact valid
      rw [logsIn]
      by_cases refused : result.errors ≠ [] ∨ result.authenticated = false
      · rw [if_pos refused]
        refine .inr ⟨fun ⟨clean, valid, _⟩ => ?_, samlAcs_refuse_sessions _ _ _⟩
        rcases refused with errors | unauthenticated
        · exact errors clean
        · cases valid.symm.trans unauthenticated
      · rw [if_neg refused]
        obtain ⟨errors, unauthenticated⟩ := not_or.mp refused
        have clean : result.errors = [] := not_not.mp errors
        have valid : result.authenticated = true := eq_true_of_ne_false unauthenticated
        rcases samlAcs_admit_sessions env tables now token request cfg
          ((nonempty result.nameId).getD "<unknown>") with ⟨named, made⟩ | ⟨unnamed, same⟩
        · exact .inl ⟨⟨clean, valid, named⟩, made⟩
        · exact .inr ⟨fun logged => unnamed logged.2.2, same⟩

/-! ## Runs -/

open Classical in
/-- The assertion of the session that a request creates, if it creates one. -/
noncomputable def loginOf (env : SamlEnvironment) : Nat × SamlEvent → Option (Option String)
  | (_, .login) => none
  | (now, .acs _ request) =>
    if LogsIn env now request then some (assertionOf env now request) else none

/-- One request adds the assertion of the session it creates. -/
theorem created_step {env : SamlEnvironment} {state next : SamlSystem} {label : Nat × SamlEvent}
    (stepped : SamlSystem.step env state label = some next) :
    next.created.map Prod.fst = state.created.map Prod.fst ++ (loginOf env label).toList := by
  obtain ⟨now, event⟩ := label
  cases event with
  | login =>
    cases stepped
    exact (List.append_nil _).symm
  | acs token request =>
    cases stepped
    rcases samlAcs_sessions env state.tables now token request with
      ⟨logged, session, made⟩ | ⟨refused, same⟩
    · simp [loginOf, logged, made]
    · simp [loginOf, refused, same]

/-- A run creates the sessions of its requests that log in. -/
theorem created_run {env : SamlEnvironment} {labels : List (Nat × SamlEvent)}
    {state final : SamlSystem} (ran : (SamlSystem.step env).run state labels = some final) :
    final.created.map Prod.fst = state.created.map Prod.fst ++ labels.filterMap (loginOf env) := by
  induction labels generalizing state with
  | nil =>
    obtain rfl := Option.some.inj ran
    exact (List.append_nil _).symm
  | cons label labels ih =>
    obtain ⟨next, stepped, rest⟩ := Step.run_cons.mp ran
    rw [ih rest, created_step stepped, List.append_assoc]
    congr 1
    cases made : loginOf env label <;> simp [made]

/-- The sessions of two requests come from one assertion exactly when it is replayed. -/
theorem replays_iff (env : SamlEnvironment) (first second : Nat × SamlEvent) :
    (∀ firstMade, loginOf env first = some firstMade → ∀ secondMade,
        loginOf env second = some secondMade →
          ∀ id, firstMade = some id → secondMade ≠ some id) ↔
      ¬Replays env first second := by
  obtain ⟨firstNow, firstEvent⟩ := first
  obtain ⟨secondNow, secondEvent⟩ := second
  cases firstEvent with
  | login => simp [loginOf, Replays]
  | acs firstToken firstRequest =>
    cases secondEvent with
    | login => simp [loginOf, Replays]
    | acs secondToken secondRequest =>
      by_cases firstLogs : LogsIn env firstNow firstRequest
      · by_cases secondLogs : LogsIn env secondNow secondRequest
        · simp [loginOf, Replays, firstLogs, secondLogs]
        · simp [loginOf, Replays, secondLogs]
      · simp [loginOf, Replays, firstLogs]

/-- The use of assertions can be told from their ids alone. -/
theorem singleUse_iff (state : SamlSystem) :
    SingleUse state ↔ (state.created.map Prod.fst).Pairwise
      fun first second => ∀ id, first = some id → second ≠ some id := by
  rw [List.pairwise_map]
  rfl

/-- In every run of requests to the two SAML routes from empty records, no assertion leads to two
sessions if and only if no assertion is posted twice by requests that log in: accepted at
their times, for a name with a role, and fitting. -/
theorem assertions_single_use_iff {env : SamlEnvironment} {tables : LoginTables}
    {labels : List (Nat × SamlEvent)} {final : SamlSystem}
    (ran : (SamlSystem.step env).run ⟨tables, []⟩ labels = some final) :
    SingleUse final ↔ labels.Pairwise fun first second => ¬Replays env first second := by
  have made := created_run ran
  rw [List.map_nil, List.nil_append] at made
  rw [singleUse_iff, made, List.pairwise_filterMap]
  refine List.Pairwise.iff fun first second => ?_
  exact replays_iff env first second

/-- The second token has the length and the characters of a token. -/
theorem secondToken_valid :
    "xN5hYc2KpW8dVq0RzJ7mUa4LtE1sGb9FoiT6kXyQ3Hw".length = 43 ∧
      "xN5hYc2KpW8dVq0RzJ7mUa4LtE1sGb9FoiT6kXyQ3Hw".toList.all isBase64Url = true := by decide

/-- The token that the session of a second post would get. -/
def secondToken : SessionToken := ⟨_, secondToken_valid.1, secondToken_valid.2⟩

/-- One response is posted at once and again two hours later, when it has expired. -/
def latePosts : List (Nat × SamlEvent) :=
  [(0, .acs sampleToken samplePost), (hours 2, .acs secondToken samplePost)]

/-- The state that these requests lead to. -/
def afterLatePosts : SamlSystem :=
  ((SamlSystem.step sampleSamlEnvironment).run ⟨noLogins, []⟩ latePosts).getD ⟨noLogins, []⟩

/-- An assertion that is posted again after it expired leads to one session. -/
theorem assertions_single_use_late : SingleUse afterLatePosts := by
  have ran : (SamlSystem.step sampleSamlEnvironment).run ⟨noLogins, []⟩ latePosts =
      some afterLatePosts := rfl
  refine (assertions_single_use_iff ran).mpr ?_
  refine List.Pairwise.cons (fun second listed replayed => ?_) (List.pairwise_singleton _ _)
  obtain rfl := List.mem_singleton.mp listed
  obtain ⟨_, ⟨cfg, result, _, processed, clean, _⟩, _⟩ := replayed
  have late : some (⟨["invalid_response"], false, some "Timing issues", none, none⟩ : SamlResult) =
      some result := processed
  obtain rfl := Option.some.inj late
  cases clean

/-- A response that is posted twice within its lifetime leads to two sessions from one
assertion. -/
theorem assertion_replayed :
    ¬∀ (labels : List (Nat × SamlEvent)) (final : SamlSystem),
      (SamlSystem.step sampleSamlEnvironment).run ⟨noLogins, []⟩ labels = some final →
        SingleUse final := by
  intro claimed
  let posts : List (Nat × SamlEvent) :=
    [(0, .acs sampleToken samplePost), (1000000, .acs secondToken samplePost)]
  let final : SamlSystem :=
    ((SamlSystem.step sampleSamlEnvironment).run ⟨noLogins, []⟩ posts).getD ⟨noLogins, []⟩
  have single : SingleUse final := claimed posts final rfl
  have twice : final.created.map Prod.fst = [some "_1", some "_1"] := by decide +kernel
  rw [singleUse_iff, twice] at single
  have apart := (List.pairwise_cons.mp single).1 (some "_1") (List.mem_singleton_self _) "_1" rfl
  exact apart rfl

end TacacsWeb.Verif
