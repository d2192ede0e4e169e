import TacacsWeb.Model.Application
import TacacsWeb.Verif.AuditedTogether
import TacacsWeb.Verif.LoginAudit
import TacacsWeb.Verif.MavisVerdicts

/-!
# Where a session comes from

A request that the application accepts was preceded, within the hard lifetime of a session, by a
login with the credentials of its time: the password and the address of the local admin, or a
response of the identity provider that names an enabled account whose groups have the role. Nothing
that happens in between gives a session another name or role.
-/

namespace TacacsWeb.Verif

open TacacsWeb.Library TacacsWeb.Model

/-! ## What a login leaves behind -/

/-- The credentials of a local login. -/
structure LocalCredentials (verify : String → String → Bool) (payload : LoginRequest)
    (request : ClientRequest) (admin : LocalAdmin) : Prop where
  /-- The name is that of the account. -/
  named : admin.username = payload.username
  /-- The password is that of the account. -/
  verified : verifyPassword verify admin.passwordArgon2Hash payload.password = true
  /-- The account may log in from the address. -/
  address : cidrAllows admin.allowedSourceCidr request.clientIp = true

/-- What a local login leaves behind. -/
inductive LocalLoginEffect (verify : String → String → Bool) (before : LoginTables) (now : Nat)
    (token : SessionToken) (payload : LoginRequest) (request : ClientRequest) :
    LoginTables → Prop where
  /-- Nothing. -/
  | nothing : LocalLoginEffect verify before now token payload request before
  /-- The audit row of a refusal. -/
  | refused {row : AuditLog} (failed : row.action = .authLoginFailed) :
    LocalLoginEffect verify before now token payload request
      { before with audit := before.audit ++ [row] }
  /-- A session and its audit row. -/
  | granted {admin : LocalAdmin} (listed : admin ∈ before.localAdmins)
    (credentials : LocalCredentials verify payload request admin) :
    LocalLoginEffect verify before now token payload request {
      localAdmins := before.localAdmins.map fun other =>
        if other.id = admin.id then { other with lastLoginAt := some now } else other
      sessions := before.sessions ++ [createSession now token admin.username "admin" .localAdmin
        (some admin.id) request.clientIp]
      audit := before.audit ++ [localLoginSucceeded admin request] }

/-- What a commit of login rows leaves when it goes through. -/
theorem commitLogin_eq_ok {tables after : LoginTables} {session : Option WebSession}
    {row : AuditLog} (committed : commitLogin tables session row = .ok after) :
    after = { tables with
      sessions := tables.sessions ++ session.toList
      audit := tables.audit ++ [row] } := by
  unfold commitLogin at committed
  split at committed
  · exact (Except.ok.inj committed).symm
  · cases committed

/-- A local login that is refused adds its audit row at most. -/
theorem loginLocal_refuse_effect (verify : String → String → Bool) (tables : LoginTables)
    (now : Nat) (token : SessionToken) (payload : LoginRequest) (request : ClientRequest)
    (accepted : Bool) :
    LocalLoginEffect verify tables now token payload request
      (loginLocal.refuse tables payload request accepted).1 := by
  unfold loginLocal.refuse
  split
  · exact .nothing
  · rename_i after committed
    rw [commitLogin_eq_ok committed]
    simp only [Option.toList_none, List.append_nil]
    exact .refused rfl

/-- A local login has the effect that its credentials allow. -/
theorem loginLocal_effect (verify : String → String → Bool) (sessionCookieSecure : Bool)
    (tables : LoginTables) (now : Nat) (token : SessionToken) (payload : LoginRequest)
    (request : ClientRequest) :
    LocalLoginEffect verify tables now token payload request
      (loginLocal verify sessionCookieSecure tables now token payload request).1 := by
  have refusal := loginLocal_refuse_effect verify tables now token payload request
  unfold loginLocal
  split
  · exact .nothing
  · rename_i found looked
    dsimp only
    split
    · rename_i admin
      split
      · rename_i passed
        have found : tables.localAdmins.find? (fun admin => admin.username = payload.username) =
            some admin := by
          unfold findLocalAdmin at looked
          split at looked
          · exact Except.ok.inj looked
          · cases looked
        have named : admin.username = payload.username := by
          simpa only [decide_eq_true_eq] using List.find?_some found
        simp only [Option.any_some, Option.all_some, Bool.and_eq_true] at passed
        split
        · exact .nothing
        · rename_i after committed
          rw [commitLogin_eq_ok committed]
          exact .granted (List.mem_of_find?_eq_some found) ⟨named, passed.1, passed.2⟩
      · exact refusal _
    · exact refusal _

/-- The credentials of a SAML login: what the identity provider says, the account, and its role. -/
structure SamlCredentials (env : SamlEnvironment) (now : Nat) (request : AcsRequest)
    (name : String) (role : Role) : Prop where
  /-- A response that passes validation names an enabled account, whose groups have the role. -/
  accepted : ∃ cfg result user, loadSamlConfig env.settings = .ok cfg ∧
    env.toolkit.processResponse cfg request.postData now = some result ∧
      result.errors = [] ∧ result.authenticated = true ∧
        name = (nonempty result.nameId).getD "<unknown>" ∧
          findByUsername env.fold env.identity.users name = .ok (some user) ∧
            user.enabled = true ∧
              resolveRole env.fold ((env.identity.load user).groups.map ADGroup.distinguishedName)
                cfg.roleMappings = some role

/-- What a SAML login leaves behind. -/
inductive SamlLoginEffect (env : SamlEnvironment) (before : LoginTables) (now : Nat)
    (token : SessionToken) (request : AcsRequest) : LoginTables → Prop where
  /-- Nothing. -/
  | nothing : SamlLoginEffect env before now token request before
  /-- The audit row of a refusal. -/
  | refused {row : AuditLog} (failed : row.action = .authLoginFailed) :
    SamlLoginEffect env before now token request { before with audit := before.audit ++ [row] }
  /-- A session and its audit row. -/
  | granted {name summary : String} {role : Role}
    (credentials : SamlCredentials env now request name role) :
    SamlLoginEffect env before now token request { before with
      sessions := before.sessions ++ [createSession now token name role.code .saml none
        request.clientIp]
      audit := before.audit ++ [samlAudit request name role.code .authLoginSucceeded summary] }

/-- A SAML login that is refused adds its audit row at most. -/
theorem samlAcs_refuse_effect (env : SamlEnvironment) (tables : LoginTables) (now : Nat)
    (token : SessionToken) (request : AcsRequest) {row : AuditLog} (answer : HttpError)
    (failed : row.action = .authLoginFailed) :
    SamlLoginEffect env tables now token request (samlAcs.refuse tables row answer).1 := by
  unfold samlAcs.refuse
  split
  · exact .nothing
  · rename_i after committed
    rw [commitLogin_eq_ok committed]
    simp only [Option.toList_none, List.append_nil]
    exact .refused failed

/-- The groups of a name are those of an enabled account. -/
theorem syncedGroupDns_eq_some {fold : CaseFolding} {identity : IdentityTables} {name : String}
    {groupValues : List String}
    (synced : syncedGroupDns fold identity name = .ok (some groupValues)) :
    ∃ user, findByUsername fold identity.users name = .ok (some user) ∧ user.enabled = true ∧
      groupValues = (identity.load user).groups.map ADGroup.distinguishedName := by
  unfold syncedGroupDns at synced
  split at synced
  · split at synced
    · cases synced
    · cases synced
    · rename_i user account
      split at synced
      · rename_i enabled
        exact ⟨user, account, enabled, (Option.some.inj (Except.ok.inj synced)).symm⟩
      · cases synced
  · cases synced

/-- A SAML login has the effect that its credentials allow. -/
theorem samlAcs_effect (env : SamlEnvironment) (tables : LoginTables) (now : Nat)
    (token : SessionToken) (request : AcsRequest) :
    SamlLoginEffect env tables now token request (samlAcs env tables now token request).1 := by
  have refusal := fun (row : AuditLog) (answer : HttpError) =>
    @samlAcs_refuse_effect env tables now token request row answer
  unfold samlAcs
  split
  · exact .nothing
  · rename_i cfg configured
    split
    · exact .nothing
    · rename_i result processed
      split
      · exact refusal _ _ rfl
      · rename_i valid
        simp only [ne_eq, not_or, Decidable.not_not, Bool.not_eq_false] at valid
        unfold samlAcs.enrol
        split
        · exact .nothing
        · exact refusal _ _ rfl
        · rename_i groupValues synced
          dsimp only
          split
          · exact refusal _ _ rfl
          · rename_i role resolved
            split
            · exact .nothing
            · rename_i after committed
              rw [commitLogin_eq_ok committed]
              obtain ⟨user, account, enabled, groups⟩ := syncedGroupDns_eq_some synced
              rw [groups] at resolved
              exact .granted ⟨cfg, result, user, configured, processed, valid.1, valid.2, rfl,
                account, enabled, resolved⟩

/-! ## The session check -/

/-- What is in a row from its creation on: the row without what a request slides. -/
def asCreated (row : WebSession) : WebSession :=
  { row with
    lastSeenAt := row.createdAt
    expiresAt := row.createdAt + sessionSlidingLifetime }

/-- A request that passes the session check has a session that it slides, and acts for it. -/
theorem requireSession_ok {sessions after : List WebSession} {now : Nat}
    {cookieToken : Option String} {request : ClientRequest} {active : ActiveSession}
    (accepted : requireSession sessions now cookieToken request = (after, .ok active)) :
    ∃ row ∈ sessions, now < row.hardExpiresAt ∧ cookieToken = some row.token ∧
      after = replaceRow WebSession.token (slid now row) sessions ∧
        active = {
          token := row.token
          username := row.usernameSnapshot
          role := row.role
          authMethod := row.authMethod.code
          actorId := row.localAdminId
          clientIp := request.clientIp
          userAgent := request.userAgent } := by
  unfold requireSession at accepted
  split at accepted
  · cases accepted
  · rename_i token
    split at accepted
    · cases accepted
    · split at accepted
      · cases accepted
      · rename_i seen row loaded
        unfold loadActiveSession at loaded
        split at loaded
        · cases loaded
        · rename_i found read
          split at loaded
          · cases loaded
          · rename_i live
            obtain ⟨same, rfl⟩ : sessions = seen ∧ found = row := by simpa using loaded
            subst same
            cases accepted
            refine ⟨found, List.mem_of_find?_eq_some read, ?_, ?_, rfl, rfl⟩
            · omega
            · rw [token_of_getWebSession read]

/-- The session check adds no session and changes none but by sliding it. -/
theorem requireSession_asCreated {sessions : List WebSession} {now : Nat}
    {cookieToken : Option String} {request : ClientRequest} {row : WebSession}
    (listed : row ∈ (requireSession sessions now cookieToken request).1) :
    ∃ before ∈ sessions, asCreated before = asCreated row := by
  rcases requireSession_cases sessions now cookieToken request with
    ⟨token, found, ctx, -, -, read, -, passed, -⟩ | ⟨error, after, -, rejected, answered⟩
  · rw [passed] at listed
    rcases mem_replaceRow listed with same | other
    · exact ⟨found, List.mem_of_find?_eq_some read, by rw [same]; rfl⟩
    · exact ⟨row, other.1, rfl⟩
  · rw [answered] at listed
    cases rejected with
    | noSession missing => exact ⟨row, listed, rfl⟩
    | unknown sent unknown => exact ⟨row, listed, rfl⟩
    | expired sent found late => exact ⟨row, (List.mem_filter.mp listed).1, rfl⟩

/-! ## Runs -/

/-- A step is the login that a session was created by, with the credentials of the state before. -/
inductive LoginBehind {fold : CaseFolding} (app : Application) :
    ApplicationHost fold × ApplicationEvent → WebSession → Prop where
  /-- A login of the local admin. -/
  | localAdmin {host : ApplicationHost fold} {now : Nat} {token : SessionToken}
    {payload : LoginRequest} {request : ClientRequest} {admin : LocalAdmin}
    (account : app.tables.localAdmin = some admin)
    (credentials : LocalCredentials host.verify payload request admin) :
    LoginBehind app (host, .loginLocal now token payload request)
      (createSession now token admin.username "admin" .localAdmin (some admin.id) request.clientIp)
  /-- A SAML login. -/
  | saml {host : ApplicationHost fold} {now : Nat} {token : SessionToken} {request : AcsRequest}
    {name : String} {role : Role}
    (credentials : SamlCredentials (app.samlEnvironment host) now request name role) :
    LoginBehind app (host, .samlAcs now token request)
      (createSession now token name role.code .saml none request.clientIp)

/-- A session, as it was created, is stored. -/
def StoresSession (app : Application) (created : WebSession) : Prop :=
  ∃ row ∈ app.sessions, asCreated row = created

/-- A logout adds no session and changes none but by sliding it. -/
theorem logout_asCreated {sessions : List WebSession} {audit : List AuditLog} {now : Nat}
    {cookieToken : Option String} {request : ClientRequest} {row : WebSession}
    (listed : row ∈ (logout sessions audit now cookieToken request).1.1) :
    ∃ before ∈ sessions, asCreated before = asCreated row := by
  have checked := @requireSession_asCreated sessions now cookieToken request row
  unfold logout at listed
  split at listed
  · rename_i after error answered
    rw [answered] at checked
    exact checked listed
  · rename_i after ctx answered
    rw [answered] at checked
    dsimp only at listed
    split at listed
    · have kept : row ∈ after := by
        simp only [revokeSession] at listed
        split at listed
        · exact listed
        · exact (List.mem_filter.mp listed).1
      exact checked kept
    · exact checked listed

/-- A session that is stored after a step was stored before, or the step is its login. -/
theorem stored_step {fold : CaseFolding} {app next : Application}
    {label : ApplicationHost fold × ApplicationEvent} {created : WebSession}
    (stepped : Application.step fold app label = some next) (stored : StoresSession next created) :
    StoresSession app created ∨ LoginBehind app label created := by
  obtain ⟨row, listed, same⟩ := stored
  obtain ⟨host, event⟩ := label
  cases event with
  | loginLocal now token payload request =>
    obtain rfl := Option.some.inj stepped
    have effect := loginLocal_effect host.verify host.sessionCookieSecure app.loginTables now token
      payload request
    revert listed
    change row ∈ (loginLocal host.verify host.sessionCookieSecure app.loginTables now token
      payload request).1.sessions → _
    generalize (loginLocal host.verify host.sessionCookieSecure app.loginTables now token
      payload request).1 = after at effect
    intro listed
    cases effect with
    | nothing => exact .inl ⟨row, listed, same⟩
    | refused failed => exact .inl ⟨row, listed, same⟩
    | granted account credentials =>
      rcases List.mem_append.mp listed with old | new
      · exact .inl ⟨row, old, same⟩
      · right
        rw [← same, List.mem_singleton.mp new]
        exact .localAdmin (Option.mem_toList.mp account) credentials
  | samlAcs now token request =>
    have effect := samlAcs_effect (app.samlEnvironment host) app.loginTables now token request
    simp only [Application.step] at stepped
    split at stepped
    · obtain rfl := Option.some.inj stepped
      exact .inl ⟨row, listed, same⟩
    · obtain rfl := Option.some.inj stepped
      revert listed
      change row ∈ (samlAcs (app.samlEnvironment host) app.loginTables now token
        request).1.sessions → _
      generalize (samlAcs (app.samlEnvironment host) app.loginTables now token
        request).1 = after at effect
      intro listed
      cases effect with
      | nothing => exact .inl ⟨row, listed, same⟩
      | refused failed => exact .inl ⟨row, listed, same⟩
      | granted credentials =>
        rcases List.mem_append.mp listed with old | new
        · exact .inl ⟨row, old, same⟩
        · right
          rw [← same, List.mem_singleton.mp new]
          exact .saml credentials
  | authenticate now cookieToken request =>
    have checked := @requireSession_asCreated app.sessions now cookieToken request row
    simp only [Application.step] at stepped
    split at stepped
    all_goals
      rename_i answered
      obtain rfl := Option.some.inj stepped
      rw [answered] at checked
      obtain ⟨before, there, slides⟩ := checked listed
      exact .inl ⟨before, there, slides.trans same⟩
  | logout now cookieToken request =>
    obtain rfl := Option.some.inj stepped
    obtain ⟨before, there, slides⟩ := logout_asCreated listed
    exact .inl ⟨before, there, slides.trans same⟩
  | perform task plan =>
    simp only [Application.step] at stepped
    split at stepped
    · obtain rfl := Option.some.inj stepped
      exact .inl ⟨row, listed, same⟩
    · split at stepped
      · obtain rfl := Option.some.inj stepped
        exact .inl ⟨row, listed, same⟩
      · cases stepped
  | mavisAuth req plan =>
    obtain rfl := Option.some.inj stepped
    exact .inl ⟨row, listed, same⟩
  | mavisInfo req deviceOrder authorizationOrder plan =>
    obtain rfl := Option.some.inj stepped
    exact .inl ⟨row, listed, same⟩
  | tick times =>
    obtain rfl := Option.some.inj stepped
    exact .inl ⟨row, listed, same⟩
  | ingest nasIp position =>
    obtain rfl := Option.some.inj stepped
    exact .inl ⟨row, listed, same⟩
  | note writes =>
    obtain rfl := Option.some.inj stepped
    exact .inl ⟨row, listed, same⟩

/-- The session of a login has its hard deadline. -/
theorem LoginBehind.hardExpiresAt {fold : CaseFolding} {app : Application}
    {label : ApplicationHost fold × ApplicationEvent} {created : WebSession}
    (login : LoginBehind app label created) :
    created.hardExpiresAt = created.createdAt + sessionHardLifetime := by
  cases login <;> rfl

/-- The caller is who the session was created for. -/
structure ActsFor (active : ActiveSession) (created : WebSession) : Prop where
  /-- The token. -/
  token : active.token = created.token
  /-- The name. -/
  username : active.username = created.usernameSnapshot
  /-- The role. -/
  role : active.role = created.role
  /-- The method. -/
  authMethod : active.authMethod = created.authMethod.code
  /-- The account. -/
  actorId : active.actorId = created.localAdminId

/-- In every run of a new installation, a session was created by a login. -/
theorem stored_by_login {fold : CaseFolding}
    {labels : List (ApplicationHost fold × ApplicationEvent)} {app : Application}
    (ran : (Application.step fold).run .installed labels = some app) {created : WebSession}
    (stored : StoresSession app created) :
    ∃ earlier label later before, labels = earlier ++ label :: later ∧
      (Application.step fold).run .installed earlier = some before ∧
        LoginBehind before label created := by
  have brought := Step.run_origin StoresSession LoginBehind
    (fun before label next created stepped held => stored_step stepped held) ran stored
  rcases brought with ⟨first, absent, -⟩ | found
  · exact absurd absent List.not_mem_nil
  · exact found

/-- In every run of a new installation, a request that passes the session check was preceded by a
login whose credentials were those of its time: it acts for the session that the login created, and
comes within the hard lifetime after it. -/
theorem accepted_by_login {fold : CaseFolding}
    {labels : List (ApplicationHost fold × ApplicationEvent)} {app : Application}
    (ran : (Application.step fold).run .installed labels = some app) {now : Nat}
    {cookieToken : Option String} {request : ClientRequest} {after : List WebSession}
    {active : ActiveSession}
    (accepted : requireSession app.sessions now cookieToken request = (after, .ok active)) :
    ∃ earlier label later before created, labels = earlier ++ label :: later ∧
      (Application.step fold).run .installed earlier = some before ∧
        LoginBehind before label created ∧ ActsFor active created ∧
          cookieToken = some created.token ∧ now < created.createdAt + sessionHardLifetime := by
  obtain ⟨row, listed, live, sent, -, acting⟩ := requireSession_ok accepted
  have stored : StoresSession app (asCreated row) := ⟨row, listed, rfl⟩
  obtain ⟨earlier, label, later, before, split, reached, login⟩ := stored_by_login ran stored
  refine ⟨earlier, label, later, before, asCreated row, split, reached, login, ?_, sent, ?_⟩
  · rw [acting]
    exact ⟨rfl, rfl, rfl, rfl, rfl⟩
  · have deadline := login.hardExpiresAt
    rw [← deadline]
    exact live

/-- What surrounds an application at work: argon2 knows one password, the directory rejects every
one, and the identity provider signs one response. -/
def siteAtWork : ApplicationHost .ascii where
  admin := hostAtWork
  folding := rfl
  server := rejectingServer
  toolkit := sampleSamlEnvironment.toolkit
  verify _ plain := plain = "secret"
  baseUrl := "https://tacacs.corp"
  sessionCookieSecure := true
  sharedSecret := ""
  hostsFile := "/var/lib/tacacs-web/tac_plus-ng/hosts.cfg"

/-- The name of the local admin may be sent. -/
theorem adminName_length : 1 ≤ "admin".length ∧ "admin".length ≤ 64 := by decide

/-- The password of the local admin may be sent. -/
theorem adminPassword_length : 1 ≤ "secret".length ∧ "secret".length ≤ 1024 := by decide

/-- The password of the local admin. -/
def adminLogin : LoginRequest := ⟨"admin", "secret", adminName_length, adminPassword_length⟩

/-- The browser that the sample logins come from. -/
def browser : ClientRequest := ⟨some "10.0.0.9", some "Mozilla/5.0"⟩

/-- The local admin is created and logs in. -/
def firstLogin : List (ApplicationHost .ascii × ApplicationEvent) :=
  [(siteAtWork, .perform (.audited (.bootstrapAdmin "admin" "secret" false)) []),
    (siteAtWork, .loginLocal 0 sampleToken adminLogin browser)]

/-- The application after that. -/
def afterFirstLogin : Application :=
  ((Application.step .ascii).run .installed firstLogin).getD .installed

/-- A request seven hours later is accepted, and the login is behind it. -/
theorem accepted_by_login_first : ∃ after active,
    requireSession afterFirstLogin.sessions (hours 7) (some sampleToken.value) browser =
        (after, .ok active) ∧
      ∃ earlier label later before created, firstLogin = earlier ++ label :: later ∧
        (Application.step .ascii).run .installed earlier = some before ∧
          LoginBehind before label created ∧ ActsFor active created ∧
            some sampleToken.value = some created.token ∧
              hours 7 < created.createdAt + sessionHardLifetime := by
  have ran : (Application.step .ascii).run .installed firstLogin = some afterFirstLogin := rfl
  have accepted : requireSession afterFirstLogin.sessions (hours 7) (some sampleToken.value)
      browser = _ := rfl
  exact ⟨_, _, accepted, accepted_by_login ran accepted⟩

end TacacsWeb.Verif
