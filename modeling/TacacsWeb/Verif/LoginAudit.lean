import TacacsWeb.Model.SamlRoutes
import TacacsWeb.Verif.SessionLifetime

/-!
# The audit row of a login

Each login handler commits its audit row, and its session if it makes one, in one go at its
end. So an attempt leaves its trace exactly when it gets that far and every value of the rows
fits its column: the name, the address and the browser that the client sent are copied as
they are.
-/

namespace TacacsWeb.Verif

open TacacsWeb.Library TacacsWeb.Library.Text TacacsWeb.Model

/-- An attempt committed one audit row, of a login that went through with its session or of
one that was refused without. -/
def LoginAudited (before after : LoginTables) : Prop :=
  ∃ row, after.audit = before.audit ++ [row] ∧
    (row.action = .authLoginSucceeded ∧
        (∃ session, after.sessions = before.sessions ++ [session]) ∨
      row.action = .authLoginFailed ∧ after.sessions = before.sessions)

/-- The address and the browser of a request fit their columns. -/
def ClientRequest.Fits (request : ClientRequest) : Prop :=
  textFits (some 64) request.clientIp = true ∧ textFits (some 512) request.userAgent = true

/-- A local login attempt fits: its name has no NUL, and the address and the browser fit. -/
def LocalAttemptFits (payload : LoginRequest) (request : ClientRequest) : Prop :=
  textFits none (some payload.username) = true ∧ ClientRequest.Fits request

/-- A posted response is read without an exception, and it fits: the address and the browser do,
and so does the name that a valid one carries. -/
def SamlAttemptFits (env : SamlEnvironment) (cfg : SamlConfig) (now : Nat)
    (request : AcsRequest) : Prop :=
  ∃ result, env.toolkit.processResponse cfg request.postData now = some result ∧
    ClientRequest.Fits request.toClientRequest ∧
    (result.errors = [] → result.authenticated = true →
      textFits (some 256) (some ((nonempty result.nameId).getD "<unknown>")) = true)

/-- A text that fits is within the width and has no NUL. -/
theorem textFits_some {width : Nat} {text : String} :
    textFits (some width) (some text) = true ↔ text.length ≤ width ∧ '\x00' ∉ text.toList := by
  simp [textFits]

/-- A text without a NUL fits a column of any width. -/
theorem textFits_none {text : String} :
    textFits none (some text) = true ↔ '\x00' ∉ text.toList := by
  simp [textFits]

/-- A token fits its column. -/
theorem SessionToken.fits (token : SessionToken) :
    textFits (some 64) (some token.value) = true := by
  refine textFits_some.mpr ⟨by rw [token.sized]; decide, fun listed => ?_⟩
  have encoded := List.all_eq_true.mp token.encoded '\x00' listed
  revert encoded
  decide

/-- The row of a session fits when its name, its role and its address do. -/
theorem createSession_fits (now : Nat) (token : SessionToken) {username role : String}
    (authMethod : LoginMethod) {actorId : Option Nat} {clientIp : Option String}
    (actor : integerFits (actorId.map fun id : Nat => (id : Int)) = true)
    (roleFits : textFits (some 16) (some role) = true) :
    (createSession now token username role authMethod actorId clientIp).fits = true ↔
      textFits (some 256) (some username) = true ∧ textFits (some 64) clientIp = true := by
  have method : textFits (some 16) (some authMethod.code) = true := by
    cases authMethod <;> decide
  have admin : integerFits ((if authMethod = .localAdmin then actorId else none).map
      fun id : Nat => (id : Int)) = true := by
    split
    · exact actor
    · rfl
  simp only [createSession, WebSession.fits, SessionToken.fits, method, admin, roleFits,
    Bool.and_eq_true, and_true, true_and]

/-- An attempt that changes nothing is not audited. -/
theorem not_loginAudited_self (tables : LoginTables) : ¬LoginAudited tables tables := by
  rintro ⟨row, same, _⟩
  have lengths := congrArg List.length same
  rw [List.length_append, List.length_singleton] at lengths
  omega

/-- An attempt that ends with the commit of its rows is audited exactly when they fit. -/
theorem loginAudited_commit {Answer : Type} {before staged : LoginTables}
    {session : Option WebSession} {row : AuditLog} {answer : LoginTables → Except HttpError Answer}
    (audit : staged.audit = before.audit) (sessions : staged.sessions = before.sessions)
    (kind : row.action = .authLoginSucceeded ∧ session.isSome = true ∨
      row.action = .authLoginFailed ∧ session = none) :
    LoginAudited before (match commitLogin staged session row with
        | .error error => ((before, .error error) : LoginTables × Except HttpError Answer)
        | .ok after => (after, answer after)).1 ↔
      session.all WebSession.fits = true ∧ row.fits = true := by
  rw [commitLogin, ← Bool.and_eq_true_iff]
  by_cases fits : (session.all WebSession.fits && row.fits) = true
  · rw [if_pos fits]
    refine ⟨fun _ => fits, fun _ => ⟨row, congrArg (· ++ [row]) audit, ?_⟩⟩
    rcases kind with ⟨succeeded, made⟩ | ⟨failed, rfl⟩
    · obtain ⟨created, rfl⟩ := Option.isSome_iff_exists.mp made
      exact .inl ⟨succeeded, created, congrArg (· ++ [created]) sessions⟩
    · exact .inr ⟨failed, (List.append_nil _).trans sessions⟩
  · rw [if_neg fits]
    exact ⟨fun audited => absurd audited (not_loginAudited_self before),
      fun stored => absurd stored fits⟩

/-- The audit row of an attempt fits when its name, its role, its summary and the request do. -/
theorem auditRow_fits (request : ClientRequest) (method : LoginMethod) {actorId : Option Nat}
    {username role : String} {action : AuditAction} {summary : Option String}
    (actor : integerFits (actorId.map fun id : Nat => (id : Int)) = true)
    (roleFits : textFits (some 16) (some role) = true)
    (actionFits : textFits (some 64) (some action.code) = true)
    (summaryFits : textFits none summary = true) :
    AuditLog.fits ⟨actorId, username, role, method.code, action, none, none, summary,
        request.clientIp, request.userAgent⟩ = true ↔
      textFits (some 256) (some username) = true ∧ ClientRequest.Fits request := by
  have methodFits : textFits (some 16) (some method.code) = true := by
    cases method <;> decide
  have unset : textFits (some 64) none = true ∧
      integerFits ((none : Option Nat).map fun id : Nat => (id : Int)) = true := ⟨rfl, rfl⟩
  simp only [AuditLog.fits, ClientRequest.Fits, actor, roleFits, actionFits, summaryFits,
    methodFits, unset, Bool.and_eq_true, and_true, true_and, and_assoc]

/-- An unset actor fits its column. -/
theorem noActor_fits :
    integerFits ((none : Option Nat).map fun id : Nat => (id : Int)) = true := rfl

/-- The role of a refused attempt fits its column. -/
theorem unknownRole_fits : textFits (some 16) (some "unknown") = true := by decide

/-- The code of a refused attempt fits its column. -/
theorem loginFailed_fits : textFits (some 64) (some AuditAction.authLoginFailed.code) = true := by
  decide

/-- The code of a login that went through fits its column. -/
theorem loginSucceeded_fits :
    textFits (some 64) (some AuditAction.authLoginSucceeded.code) = true := by
  decide

/-- A name that passed validation fits when it has no NUL. -/
theorem loginRequest_fits (payload : LoginRequest) :
    textFits (some 256) (some payload.username) = true ↔
      textFits none (some payload.username) = true := by
  have short : payload.username.length ≤ 256 := Nat.le_trans payload.usernameLength.2 (by decide)
  rw [textFits_some, textFits_none]
  exact ⟨fun fits => fits.2, fun clean => ⟨short, clean⟩⟩

/-- The refusal of a local login is audited exactly when the attempt fits. -/
theorem loginLocal_refuse_audited (tables : LoginTables) (payload : LoginRequest)
    (request : ClientRequest) (accepted : Bool) :
    LoginAudited tables (loginLocal.refuse tables payload request accepted).1 ↔
      LocalAttemptFits payload request := by
  have fits : (localLoginFailed payload request accepted).fits = true ↔
      LocalAttemptFits payload request := by
    have summary : textFits none
        (some (if accepted then "cidr_denied" else "bad_password")) = true := by
      cases accepted <;> decide
    rw [LocalAttemptFits, ← loginRequest_fits]
    exact auditRow_fits request .localAdmin noActor_fits unknownRole_fits loginFailed_fits summary
  rw [← fits]
  unfold loginLocal.refuse
  refine (loginAudited_commit rfl rfl ?_).trans (and_iff_right rfl)
  exact .inr ⟨rfl, rfl⟩

/-- A local login is audited exactly when the attempt fits. -/
theorem loginLocal_audited (verify : String → String → Bool) (sessionCookieSecure : Bool)
    (tables : LoginTables) (now : Nat) (token : SessionToken) (payload : LoginRequest)
    (request : ClientRequest) :
    LoginAudited tables
        (loginLocal verify sessionCookieSecure tables now token payload request).1 ↔
      LocalAttemptFits payload request := by
  have refusal := loginLocal_refuse_audited tables payload request
  unfold loginLocal findLocalAdmin
  by_cases clean : textFits none (some payload.username) = true
  · rw [if_pos clean]
    cases found : tables.localAdmins.find? fun admin => admin.username = payload.username with
    | none => exact refusal _
    | some admin =>
      dsimp only
      split
      · have named : admin.username = payload.username := by
          simpa only [decide_eq_true_eq] using List.find?_some found
        have actor : integerFits ((some admin.id).map fun id : Nat => (id : Int)) = true := by
          rw [admin.singleton]
          decide
        have role : textFits (some 16) (some "admin") = true := by decide
        have username : textFits (some 256) (some admin.username) = true := by
          rw [named]
          exact (loginRequest_fits payload).mpr clean
        have rowFits : (localLoginSucceeded admin request).fits = true ↔
            ClientRequest.Fits request := by
          refine (auditRow_fits request .localAdmin actor role loginSucceeded_fits rfl).trans ?_
          exact and_iff_right username
        have sessionFits : (createSession now token admin.username "admin" .localAdmin
            (some admin.id) request.clientIp).fits = true ↔
              textFits (some 64) request.clientIp = true :=
          (createSession_fits now token .localAdmin actor role).trans (and_iff_right username)
        have attempt : LocalAttemptFits payload request ↔ ClientRequest.Fits request :=
          and_iff_right clean
        refine (loginAudited_commit ?_ ?_ (.inl ⟨?_, ?_⟩)).trans ?_ <;> try rfl
        rw [attempt, Option.all_some, sessionFits, rowFits]
        exact and_iff_right_of_imp fun fits => fits.1
      · exact refusal _
  · rw [if_neg clean]
    exact ⟨fun audited => absurd audited (not_loginAudited_self tables),
      fun fits => absurd fits.1 clean⟩

/-- Where lowered names are unique the lookup of a name without a NUL does not fail. -/
theorem syncedGroupDns_ok {fold : CaseFolding} {identity : IdentityTables} {name : String}
    (unique : (identity.users.map fun user => fold.sql user.samAccountName).Nodup)
    (clean : textFits none (some name) = true) :
    ∃ found, syncedGroupDns fold identity name = .ok found := by
  have found : ∃ user, findByUsername fold identity.users name = .ok user := by
    cases matching : identity.users.filter fun user =>
        fold.sql user.samAccountName = fold.python name with
    | nil => exact ⟨none, by rw [findByUsername, matching]; rfl⟩
    | cons user others =>
      have listed : user ∈ identity.users.filter fun user =>
          fold.sql user.samAccountName = fold.python name := matching ▸ List.mem_cons_self
      obtain ⟨present, named⟩ := List.mem_filter.mp listed
      exact ⟨some user, findByUsername_of_unique unique present (of_decide_eq_true named)⟩
  obtain ⟨user, looked⟩ := found
  rw [syncedGroupDns, if_pos clean, looked]
  cases user with
  | none => exact ⟨none, rfl⟩
  | some user =>
    dsimp only
    split <;> exact ⟨_, rfl⟩

/-- A `repr` of texts holds no NUL. -/
theorem nul_notMem_reprTexts (printable : Char → Bool) (texts : List String) :
    '\x00' ∉ (reprTexts printable texts).toList := by
  have parts : '\x00' ∉ [',', ' '].intercalate
      (texts.map fun text => (pyRepr printable text).toList) := by
    refine notMem_intercalate (by decide) fun part listed => ?_
    obtain ⟨text, _, rfl⟩ := List.mem_map.mp listed
    exact nul_notMem_pyRepr printable text
  simp [reprTexts, parts]

/-- The `repr` of a text or of `None` has no NUL. -/
theorem nul_notMem_reprOption (printable : Char → Bool) (text : Option String) :
    '\x00' ∉ (reprOption printable text).toList := by
  cases text with
  | none =>
    have printed : '\x00' ∉ "None".toList := by decide
    exact printed
  | some text => exact nul_notMem_pyRepr printable text

/-- A summary of printed values fits its column. -/
theorem summary_fits {first second : String} (firstClean : '\x00' ∉ first.toList)
    (secondClean : '\x00' ∉ second.toList) : textFits none (some (first ++ second)) = true := by
  refine textFits_none.mpr fun listed => ?_
  rw [String.toList_append, List.mem_append] at listed
  exact listed.elim firstClean secondClean

/-- The audit row of a SAML login fits when its name and the request do. -/
theorem samlAudit_fits (request : AcsRequest) {username role summary : String}
    {action : AuditAction} (roleFits : textFits (some 16) (some role) = true)
    (actionFits : textFits (some 64) (some action.code) = true)
    (summaryFits : textFits none (some summary) = true) :
    (samlAudit request username role action summary).fits = true ↔
      textFits (some 256) (some username) = true ∧ ClientRequest.Fits request.toClientRequest :=
  auditRow_fits request.toClientRequest .saml noActor_fits roleFits actionFits summaryFits

/-- A refused SAML login is audited exactly when its name and the request fit. -/
theorem samlAcs_refuse_audited (tables : LoginTables) (request : AcsRequest)
    {username summary : String} (answer : HttpError)
    (summaryFits : textFits none (some summary) = true) :
    LoginAudited tables (samlAcs.refuse tables
        (samlAudit request username "unknown" .authLoginFailed summary) answer).1 ↔
      textFits (some 256) (some username) = true ∧
        ClientRequest.Fits request.toClientRequest := by
  rw [← samlAudit_fits request unknownRole_fits loginFailed_fits summaryFits]
  unfold samlAcs.refuse
  refine (loginAudited_commit rfl rfl ?_).trans (and_iff_right rfl)
  exact .inr ⟨rfl, rfl⟩

/-- A role fits its column. -/
theorem role_fits (role : Role) : textFits (some 16) (some role.code) = true := by
  cases role <;> decide

/-- The session and the audit row of a SAML login fit when its name and the request do. -/
theorem samlLogin_fits (env : SamlEnvironment) (now : Nat) (token : SessionToken)
    (request : AcsRequest) (nameId : String) (groupValues : List String) (role : Role) :
    ((createSession now token nameId role.code .saml none request.clientIp).fits = true ∧
        (samlAudit request nameId role.code .authLoginSucceeded
          ("groups=" ++ reprTexts env.printable groupValues)).fits = true) ↔
      textFits (some 256) (some nameId) = true ∧ ClientRequest.Fits request.toClientRequest := by
  have printed : textFits none (some ("groups=" ++ reprTexts env.printable groupValues)) = true :=
    summary_fits (by decide) (nul_notMem_reprTexts env.printable groupValues)
  rw [samlAudit_fits request (role_fits role) loginSucceeded_fits printed,
    createSession_fits now token .saml noActor_fits (role_fits role)]
  exact ⟨fun both => both.2, fun fits => ⟨⟨fits.1, fits.2.1⟩, fits⟩⟩

/-- A valid response is audited exactly when its name and the request fit. -/
theorem samlAcs_admit_audited (env : SamlEnvironment) (tables : LoginTables) (now : Nat)
    (token : SessionToken) (request : AcsRequest) (cfg : SamlConfig) (nameId : String)
    (unique : (env.identity.users.map fun user => env.fold.sql user.samAccountName).Nodup) :
    LoginAudited tables (samlAcs.enrol env tables now token request cfg nameId).1 ↔
      textFits (some 256) (some nameId) = true ∧ ClientRequest.Fits request.toClientRequest := by
  unfold samlAcs.enrol
  by_cases clean : textFits none (some nameId) = true
  · obtain ⟨found, looked⟩ := syncedGroupDns_ok unique clean
    rw [looked]
    cases found with
    | none => exact samlAcs_refuse_audited tables request _ (by decide)
    | some groupValues =>
      have groups := nul_notMem_reprTexts env.printable groupValues
      dsimp only
      cases resolveRole env.fold groupValues cfg.roleMappings with
      | none => exact samlAcs_refuse_audited tables request _ (summary_fits (by decide) groups)
      | some role =>
        refine (loginAudited_commit ?_ ?_ (.inl ⟨?_, ?_⟩)).trans ?_ <;> try rfl
        rw [Option.all_some]
        exact samlLogin_fits env now token request nameId groupValues role
  · have refused : syncedGroupDns env.fold env.identity nameId = .error internalServerError :=
      if_neg clean
    rw [refused]
    refine ⟨fun audited => absurd audited (not_loginAudited_self tables), fun fits => ?_⟩
    exact absurd (textFits_none.mpr (textFits_some.mp fits.1).2) clean

/-- A posted response that is read is audited exactly when the attempt fits. -/
theorem samlAcs_audited (env : SamlEnvironment) (tables : LoginTables) (now : Nat)
    (token : SessionToken) (request : AcsRequest) {cfg : SamlConfig}
    (unique : (env.identity.users.map fun user => env.fold.sql user.samAccountName).Nodup)
    (configured : loadSamlConfig env.settings = .ok cfg) :
    LoginAudited tables (samlAcs env tables now token request).1 ↔
      SamlAttemptFits env cfg now request := by
  unfold samlAcs SamlAttemptFits
  rw [configured]
  dsimp only
  cases env.toolkit.processResponse cfg request.postData now with
  | none =>
    simp only [reduceCtorEq, false_and, exists_false, iff_false]
    exact not_loginAudited_self tables
  | some result =>
    simp only [Option.some.injEq, exists_eq_left']
    by_cases refused : result.errors ≠ [] ∨ result.authenticated = false
    · rw [if_pos refused]
      have summary : textFits none (some ("errors=" ++ reprTexts env.printable result.errors ++
          "; reason=" ++ reprOption env.printable result.lastErrorReason)) = true := by
        refine summary_fits ?_ (nul_notMem_reprOption env.printable result.lastErrorReason)
        simp [nul_notMem_reprTexts env.printable result.errors]
      rw [samlAcs_refuse_audited tables request _ summary, and_comm]
      refine and_congr_right fun _ => iff_of_true (by decide) fun errors valid => ?_
      rcases refused with found | unauthenticated
      · exact absurd errors found
      · exact absurd (valid.symm.trans unauthenticated) (by decide)
    · rw [if_neg refused, samlAcs_admit_audited env tables now token request cfg _ unique, and_comm]
      obtain ⟨errors, valid⟩ := not_or.mp refused
      have named : result.errors = [] ∧ result.authenticated = true :=
        ⟨not_not.mp errors, eq_true_of_ne_false valid⟩
      refine and_congr_right fun _ => ?_
      exact ⟨fun fits _ _ => fits, fun fits => fits named.1 named.2⟩

/-- Every local login that passed validation and every SAML response that reaches its validation
is audited, with a session exactly when it went through, if and only if the attempt fits: what
the client sent as its name, address and browser does, and the posted form is read without an
exception. -/
theorem login_audited_iff (verify : String → String → Bool) (env : SamlEnvironment)
    (tables : LoginTables) (now : Nat) (token : SessionToken)
    (unique : (env.identity.users.map fun user => env.fold.sql user.samAccountName).Nodup) :
    (∀ payload request,
      LoginAudited tables
          (loginLocal verify env.sessionCookieSecure tables now token payload request).1 ↔
        LocalAttemptFits payload request) ∧
    ∀ cfg request, loadSamlConfig env.settings = .ok cfg →
      (LoginAudited tables (samlAcs env tables now token request).1 ↔
        SamlAttemptFits env cfg now request) :=
  ⟨fun payload request =>
    loginLocal_audited verify env.sessionCookieSecure tables now token payload request,
    fun _ request configured => samlAcs_audited env tables now token request unique configured⟩

/-- Stored settings of a configured identity provider. -/
def sampleSaml : SamlSettings where
  systemSettings := Dict.ofList [("saml.idp_entity_id", "idp"),
    ("saml.idp_sso_url", "https://idp.example/sso"), ("saml.idp_x509_cert", "MIIB")]
  systemSecrets := Dict.ofList [("saml.sp_certificate_pem", "MIIC"),
    ("saml.sp_private_key_pem", "MIIE")]
  baseUrl := "https://tacacs.example"
  decodeMappings := fun _ => [("admins", .admin)]

/-- The configuration that is loaded from them. -/
def sampleSamlConfig : SamlConfig where
  baseUrl := "https://tacacs.example"
  idpEntityId := "idp"
  idpSsoUrl := "https://idp.example/sso"
  idpSsoBinding := ""
  idpX509Cert := "MIIB"
  spCertificatePem := "MIIC"
  spPrivateKeyPem := "MIIE"
  groupAttribute := "memberOf"
  roleMappings := [("admins", .admin)]

/-- One synced user in one group. -/
def sampleIdentity : IdentityTables where
  users := [⟨1, "alice", none, "CN=Alice", none, none, true, none⟩]
  adGroups := [⟨1, "S-1-5-1", "CN=admins,DC=example", none, none⟩]
  userAdGroups := [⟨1, 1⟩]
  nextUserId := 2
  nextAdGroupId := 2

/-- An identity provider whose response logs in the synced user until some time. -/
def sampleSamlEnvironment : SamlEnvironment where
  toolkit :=
    { processResponse := fun _ postData now =>
        if ("SAMLResponse", "PHJlc3A+") ∈ postData then
          some (if now < hours 1 then ⟨[], true, none, some "alice", some "_1"⟩
            else ⟨["invalid_response"], false, some "Timing issues", none, none⟩)
        else none }
  settings := sampleSaml
  identity := sampleIdentity
  fold := .ascii
  printable := fun _ => false
  sessionCookieSecure := true

/-- The sample settings load. -/
theorem sampleSaml_loads : loadSamlConfig sampleSaml = .ok sampleSamlConfig := rfl

/-- Tables without rows. -/
def noLogins : LoginTables := ⟨[], [], []⟩

/-- The bounds of the sample request. -/
theorem sampleLogin_lengths : (1 ≤ "admin".length ∧ "admin".length ≤ 64) ∧
    1 ≤ "guess".length ∧ "guess".length ≤ 1024 := by decide

/-- A local login request. -/
def sampleLogin : LoginRequest := ⟨"admin", "guess", sampleLogin_lengths.1, sampleLogin_lengths.2⟩

/-- The request of a browser that posts the response of the identity provider. -/
def samplePost : AcsRequest :=
  ⟨⟨some "192.0.2.7", some "Mozilla/5.0"⟩, [("SAMLResponse", "PHJlc3A+")]⟩

/-- A wrong local password and a SAML response of a synced user both leave their audit row. -/
theorem login_audited_sample :
    LoginAudited noLogins (loginLocal (fun _ _ => false) true noLogins 0 sampleToken sampleLogin
      samplePost.toClientRequest).1 ∧
    LoginAudited noLogins (samlAcs sampleSamlEnvironment noLogins 0 sampleToken samplePost).1 := by
  have iff := login_audited_iff (fun _ _ => false) sampleSamlEnvironment noLogins 0 sampleToken
    (List.nodup_singleton _)
  have browser : ClientRequest.Fits samplePost.toClientRequest := ⟨by decide, by decide⟩
  have named : textFits (some 256) (some "alice") = true := by decide
  exact ⟨(iff.1 sampleLogin samplePost.toClientRequest).mpr ⟨by decide, browser⟩,
    (iff.2 sampleSamlConfig samplePost sampleSaml_loads).mpr ⟨_, rfl, browser, fun _ _ => named⟩⟩

/-- A wrong local password from a browser that sends 513 characters leaves no audit row. -/
theorem long_user_agent_unaudited :
    ¬∀ payload request, LoginAudited noLogins
      (loginLocal (fun _ _ => false) true noLogins 0 sampleToken payload request).1 := by
  intro claimed
  have audited := claimed sampleLogin ⟨none, some (String.ofList (List.replicate 513 'a'))⟩
  have fits := (loginLocal_audited _ _ _ _ _ _ _).mp audited
  have short := (textFits_some.mp fits.2.2).1
  rw [String.length_ofList, List.length_replicate] at short
  omega

end TacacsWeb.Verif
