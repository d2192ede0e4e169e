import TacacsWeb.Model.AuditedOperations
import TacacsWeb.Model.MavisRequests
import TacacsWeb.Verif.AdminAtomicity

/-!
# Every authentication request gets its verdict

A request is answered with a verdict and leaves one audit row, whatever the directory server does:
refusals of the bind, and exceptions of the connection, of the bind and of the unbind, are all
translated. The exceptions of `Server(...)` are not, since it stands before the `try`. So the
requests that get no answer are exactly those that get as far as an endpoint that `Server(...)` does
not take, and the check on the stored URL lets such endpoints through.
-/

namespace TacacsWeb.Verif

open TacacsWeb.Library TacacsWeb.Library.Text TacacsWeb.Library.UnitOfWork TacacsWeb.Model

/-! ## The statement -/

/-- The client library raises nothing but `LDAPException`s. -/
structure RaisesLdapOnly (server : LdapServer) : Prop where
  /-- `Server(...)` raises nothing but `LDAPException`s. -/
  construct : ∀ endpoint fault, server.construct endpoint = some fault → fault = .ldapException
  /-- The connection raises nothing but `LDAPException`s. -/
  connect : ∀ endpoint bindDn password fault,
    server.connect endpoint bindDn password = some fault → fault = .ldapException
  /-- The bind raises nothing but `LDAPException`s. -/
  bind : ∀ endpoint bindDn password fault,
    server.bind endpoint bindDn password = .raised fault → fault = .ldapException
  /-- Leaving the connection raises nothing but `LDAPException`s. -/
  close : ∀ endpoint bindDn password fault,
    server.close endpoint bindDn password = some fault → fault = .ldapException

/-- The `ldap.url` setting, where there is one, has passed the check of `PUT /settings/ldap`. -/
def LdapUrlAccepted (settings : Dict String String) : Prop :=
  ∀ url, settings.get? "ldap.url" = some url → ∃ payload : LdapSettingsUpdate, payload.url = url

/-- What is looked up for a request fits its audit row. -/
def AuditRowFits (fold : CaseFolding) (tables : AdminTables) (req : AuthRequest) : Prop :=
  ∀ user, findByUsername fold tables.identity.users req.username = .ok user → req.Fits user

/-- A request over its session, with a database that does what it is told. -/
def answered (fold : CaseFolding) (server : LdapServer) (tables : AdminTables)
    (sequences : AdminSequences) (req : AuthRequest) :
    Version AdminTables AdminChange × Ending AuthResponse :=
  let ran := (mavisAuthHandler fold server req).run adminEngine (.start tables sequences) []
  (ran.1.durable, ran.2)

/-- A request has a user who is enabled and has a DN, an endpoint, and a password to try there. -/
structure Attempts (fold : CaseFolding) (tables : AdminTables) (req : AuthRequest) (user : User)
    (endpoint : LdapEndpoint) : Prop where
  /-- The user of the name. -/
  found : findByUsername fold tables.identity.users req.username = .ok (some user)
  /-- The user is enabled. -/
  enabled : user.enabled = true
  /-- An endpoint is configured. -/
  configured : resolveLdapEndpoint fold tables.systemSettings = some endpoint
  /-- The user has a DN. -/
  bindDn : user.distinguishedName ≠ ""
  /-- There is a password. -/
  password : req.password ≠ ""

/-- A request gets as far as an endpoint that `Server(...)` does not take. -/
def ServerRaises (fold : CaseFolding) (server : LdapServer) (tables : AdminTables)
    (req : AuthRequest) : Prop :=
  ∃ user endpoint, Attempts fold tables req user endpoint ∧
    (server.construct endpoint).isSome = true

/-- The failures that are the fault of the request. -/
inductive Refusal (fold : CaseFolding) (server : LdapServer) (tables : AdminTables)
    (req : AuthRequest) : Prop where
  /-- Nobody has the name. -/
  | unknownUser (found : findByUsername fold tables.identity.users req.username = .ok none)
  /-- The user is disabled. -/
  | userDisabled (user : User)
      (found : findByUsername fold tables.identity.users req.username = .ok (some user))
      (disabled : user.enabled = false)
  /-- The password is empty. -/
  | emptyPassword (empty : req.password = "")
  /-- The server rejects the credentials. -/
  | rejected (user : User) (endpoint : LdapEndpoint) (description : String)
      (attempts : Attempts fold tables req user endpoint)
      (reply : server.bind endpoint user.distinguishedName req.password = .refused description)
      (credentials : description ∈ ["invalidCredentials", "invalidDNSyntax"])

/-- A request is answered, its failure is an error unless it is a refusal, and the one change that
is committed is one audit row, of a success if and only if the answer is an acceptance. -/
def AnsweredAndAudited (fold : CaseFolding) (server : LdapServer) (tables : AdminTables)
    (sequences : AdminSequences) (req : AuthRequest) : Prop :=
  ∃ response row, (answered fold server tables sequences req).2 = .answered response ∧
    (answered fold server tables sequences req).1 = ⟨withAudit tables row, [.audit row]⟩ ∧
    (row.action = .tacacsAuthnSucceeded ↔ response.result = .ack) ∧
    (response.result ≠ .ack → Refusal fold server tables req ∨ response.result = .err)

/-! ## The decision -/

section Decision

variable {server : LdapServer} {endpoint : LdapEndpoint} {bindDn password : String}

/-- An `LDAPException` is translated. -/
theorem toVerifyError_ldapException {fault : LdapFault} (ldap : fault = .ldapException) :
    fault.toVerifyError = .ldapBindError := by
  rw [ldap]
  rfl

/-- What follows the opening of a connection raises nothing but `LDAPBindError`. -/
theorem decideBind_error {close : Option LdapFault} {reply : BindReply} {error : VerifyError}
    (closes : ∀ fault, close = some fault → fault = .ldapException)
    (replies : ∀ fault, reply = .raised fault → fault = .ldapException)
    (raised : decideBind close reply = .error error) : error = .ldapBindError := by
  cases reply with
  | raised fault =>
    have translated := toVerifyError_ldapException (replies fault rfl)
    cases raised
    exact translated
  | accepted =>
    cases close with
    | none => cases raised
    | some fault =>
      have translated := toVerifyError_ldapException (closes fault rfl)
      cases raised
      exact translated
  | refused description =>
    by_cases credentials : description ∈ ["invalidCredentials", "invalidDNSyntax"]
    · simp only [decideBind, if_pos credentials] at raised
      cases close with
      | none => cases raised
      | some fault =>
        have translated := toVerifyError_ldapException (closes fault rfl)
        cases raised
        exact translated
    · simp only [decideBind, if_neg credentials] at raised
      cases raised
      rfl

/-- Only `Server(...)` lets an exception through. -/
theorem verifyLdapPassword_uncaught_iff (raises : RaisesLdapOnly server) :
    (verifyLdapPassword server endpoint bindDn password).1 = .error .uncaught ↔
      password ≠ "" ∧ (server.construct endpoint).isSome = true := by
  unfold verifyLdapPassword
  by_cases empty : password = ""
  · rw [if_pos empty]
    constructor
    · intro raised
      cases raised
    · intro tried
      exact absurd empty tried.1
  rw [if_neg empty]
  cases built : server.construct endpoint with
  | some fault => exact iff_of_true rfl ⟨empty, rfl⟩
  | none =>
    have untouched : ¬(password ≠ "" ∧ (none : Option LdapFault).isSome = true) := by
      intro claimed
      cases claimed.2
    cases opened : server.connect endpoint bindDn password with
    | some fault =>
      apply iff_of_false _ untouched
      intro raised
      have translated := toVerifyError_ldapException
        (raises.connect endpoint bindDn password fault opened)
      have uncaught : fault.toVerifyError = .uncaught := Except.error.inj raised
      rw [translated] at uncaught
      cases uncaught
    | none =>
      apply iff_of_false _ untouched
      intro raised
      have translated := decideBind_error (raises.close endpoint bindDn password)
        (raises.bind endpoint bindDn password) raised
      cases translated

/-- A password that is not verified is empty, or rejected by the server. -/
theorem verifyLdapPassword_false
    (refused : (verifyLdapPassword server endpoint bindDn password).1 = .ok false) :
    password = "" ∨ ∃ description ∈ ["invalidCredentials", "invalidDNSyntax"],
      server.bind endpoint bindDn password = .refused description := by
  unfold verifyLdapPassword at refused
  by_cases empty : password = ""
  · exact .inl empty
  rw [if_neg empty] at refused
  cases built : server.construct endpoint with
  | some fault =>
    rw [built] at refused
    cases refused
  | none =>
    cases opened : server.connect endpoint bindDn password with
    | some fault =>
      rw [built, opened] at refused
      cases refused
    | none =>
      rw [built, opened] at refused
      have decided : decideBind (server.close endpoint bindDn password)
        (server.bind endpoint bindDn password) = .ok false := refused
      cases reply : server.bind endpoint bindDn password with
      | raised fault =>
        rw [reply] at decided
        cases decided
      | accepted =>
        rw [reply] at decided
        cases closed : server.close endpoint bindDn password <;>
          rw [closed] at decided <;> cases decided
      | refused description =>
        rw [reply] at decided
        by_cases credentials : description ∈ ["invalidCredentials", "invalidDNSyntax"]
        · exact .inr ⟨description, credentials, rfl⟩
        · simp only [decideBind, if_neg credentials] at decided
          cases decided

/-- What `evaluate` makes of an answer of the verifier. -/
def verdict : Except VerifyError Bool → Except Unit AuthOutcome
  | .error .ldapBindError => .ok ⟨.err, some "ldap_unreachable"⟩
  | .error .uncaught => .error ()
  | .ok true => .ok ⟨.ack, none⟩
  | .ok false => .ok ⟨.nak, some "wrong_password"⟩

/-- The ways through `evaluate`. -/
inductive Evaluation (user : Option User) (endpoint : Option LdapEndpoint) (password : String)
    (server : LdapServer) : Except Unit AuthOutcome → Prop where
  /-- There is no user. -/
  | unknownUser (missing : user = none) :
    Evaluation user endpoint password server (.ok ⟨.nfd, some "unknown_user"⟩)
  /-- The user is disabled. -/
  | userDisabled (row : User) (found : user = some row) (disabled : row.enabled = false) :
    Evaluation user endpoint password server (.ok ⟨.nak, some "user_disabled"⟩)
  /-- No endpoint is configured. -/
  | notConfigured (row : User) (found : user = some row) (enabled : row.enabled = true)
      (missing : endpoint = none) :
    Evaluation user endpoint password server (.ok ⟨.err, some "ldap_not_configured"⟩)
  /-- The user has no DN. -/
  | noDn (row : User) (found : user = some row) (enabled : row.enabled = true)
      (missing : row.distinguishedName = "") :
    Evaluation user endpoint password server (.ok ⟨.err, some "user_has_no_dn"⟩)
  /-- The password is verified. -/
  | verified (row : User) (target : LdapEndpoint) (found : user = some row)
      (enabled : row.enabled = true) (configured : endpoint = some target)
      (bindDn : row.distinguishedName ≠ "") :
    Evaluation user endpoint password server
      (verdict (verifyLdapPassword server target row.distinguishedName password).1)

/-- `evaluate` goes one of these ways. -/
theorem evaluate_evaluation (user : Option User) (endpoint : Option LdapEndpoint)
    (password : String) (server : LdapServer) :
    Evaluation user endpoint password server
      (evaluate user endpoint password (verifyLdapPassword server)).1 := by
  cases user with
  | none => exact .unknownUser rfl
  | some row =>
    cases enabled : row.enabled with
    | false =>
      have result : (evaluate (some row) endpoint password (verifyLdapPassword server)).1 =
          .ok ⟨.nak, some "user_disabled"⟩ := by
        simp [evaluate, enabled]
      rw [result]
      exact .userDisabled row rfl enabled
    | true =>
      cases endpoint with
      | none =>
        have result : (evaluate (some row) none password (verifyLdapPassword server)).1 =
            .ok ⟨.err, some "ldap_not_configured"⟩ := by
          simp [evaluate, enabled]
        rw [result]
        exact .notConfigured row rfl enabled rfl
      | some target =>
        by_cases named : row.distinguishedName = ""
        · have result : (evaluate (some row) (some target) password
              (verifyLdapPassword server)).1 = .ok ⟨.err, some "user_has_no_dn"⟩ := by
            simp [evaluate, enabled, named]
          rw [result]
          exact .noDn row rfl enabled named
        · have result : (evaluate (some row) (some target) password
              (verifyLdapPassword server)).1 =
                verdict (verifyLdapPassword server target row.distinguishedName password).1 := by
            simp only [evaluate, enabled, Bool.not_true, Bool.false_eq_true, if_false,
              if_neg named]
            cases answer : verifyLdapPassword server target row.distinguishedName password with
            | mk value binds =>
              cases value with
              | error error => cases error <;> rfl
              | ok verified => cases verified <;> rfl
          rw [result]
          exact .verified row target rfl enabled rfl named

/-- A reason is one of a few short texts. -/
theorem evaluate_reason {user : Option User} {endpoint : Option LdapEndpoint}
    {outcome : AuthOutcome}
    (evaluated : (evaluate user endpoint password (verifyLdapPassword server)).1 = .ok outcome) :
    textFits none outcome.reason = true := by
  have ways := evaluate_evaluation user endpoint password server
  rw [evaluated] at ways
  generalize result : Except.ok outcome = value at ways
  cases ways with
  | unknownUser => cases result; decide
  | userDisabled => cases result; decide
  | notConfigured => cases result; decide
  | noDn => cases result; decide
  | verified row target =>
    cases answer : (verifyLdapPassword server target row.distinguishedName password).1 with
    | error error =>
      rw [answer] at result
      cases error <;> cases result
      decide
    | ok verified =>
      rw [answer] at result
      cases verified <;> cases result <;> decide

end Decision

/-! ## The transaction -/

section Transaction

variable {fold : CaseFolding} {server : LdapServer} {tables : AdminTables}
  {sequences : AdminSequences} {req : AuthRequest}

/-- Since lower-cased names are unique, a name is looked up without an exception. -/
theorem findByUsername_ok (valid : tables.identity.Valid fold) (username : String) :
    ∃ user, findByUsername fold tables.identity.users username = .ok user := by
  by_cases present : ∃ user ∈ tables.identity.users,
      fold.sql user.samAccountName = fold.python username
  · obtain ⟨user, listed, named⟩ := present
    exact ⟨some user, findByUsername_of_unique valid.lowerSamAccountName listed named⟩
  · have nobody : (tables.identity.users.filter fun user =>
        fold.sql user.samAccountName = fold.python username) = [] := by
      apply List.filter_eq_nil_iff.mpr
      intro user listed named
      exact present ⟨user, listed, of_decide_eq_true named⟩
    refine ⟨none, ?_⟩
    rw [findByUsername, nobody]
    rfl

/-- The audit row of a request that fits does. -/
theorem authAudit_fits {user : Option User} {outcome : AuthOutcome} (fits : req.Fits user)
    (reason : textFits none outcome.reason = true) :
    (authAudit req user outcome).fits = true := by
  have id : integerFits ((user.map User.id).map fun id : Nat => (id : Int)) = true := by
    rw [Option.map_map]
    exact fits.userId
  have summary : textFits none
      (if outcome.result = .ack then none else outcome.reason) = true := by
    split
    · rfl
    · exact reason
  have action : textFits (some 64) (some (if outcome.result = .ack then
      AuditAction.tacacsAuthnSucceeded else .tacacsAuthnFailed).code) = true := by
    split <;> decide
  simp only [AuditLog.fits, authAudit, id, fits.username, fits.nasIp, summary, action]
  decide

/-- The row of a success is that of an acceptance. -/
theorem authAudit_action_iff {user : Option User} {outcome : AuthOutcome} :
    (authAudit req user outcome).action = .tacacsAuthnSucceeded ↔ outcome.result = .ack := by
  unfold authAudit
  by_cases accepted : outcome.result = .ack
  · rw [if_pos accepted]
    exact iff_of_true rfl accepted
  · rw [if_neg accepted]
    apply iff_of_false _ accepted
    intro claimed
    cases claimed

/-- The database takes an audit row that fits. -/
theorem adminEngine_audit {row : AuditLog} (fits : row.fits = true) :
    adminEngine (.audit row) tables sequences = (.ok (withAudit tables row, 0), sequences) := by
  simp only [adminEngine, insertAudit, statement, fits, Bool.not_true, Bool.false_eq_true,
    if_false, withAudit]

/-- What becomes of an answer that is given after its audit row is committed. -/
def committedAnswer {Response : Type} (tables : AdminTables) (row : AuditLog)
    (response : Response) : Version AdminTables AdminChange × Ending Response :=
  if row.fits then (⟨withAudit tables row, [.audit row]⟩, .answered response)
  else (⟨tables, []⟩, .raised)

/-- An answer is given once its audit row is committed, and not at all when the database does not
take the row. -/
theorem run_committedAnswer {Response : Type} {row : AuditLog} {response : Response} :
    ((((Script.stage (.audit row) (.commit .raise (.respond response))).run adminEngine
        (.start tables sequences) []).1.durable),
      ((Script.stage (.audit row) (.commit .raise (.respond response))).run adminEngine
        (.start tables sequences) []).2) = committedAnswer tables row response := by
  have idle : (Session.start tables sequences :
    Session AdminTables AdminSequences AdminChange).Idle := Session.idle_start
  by_cases fits : row.fits = true
  · have committed := Session.commit_stage_ok idle (adminEngine_audit fits)
    simp only [Script.run, List.headD_nil, committed, committedAnswer, if_pos fits]
    rfl
  · have refused : adminEngine (.audit row) tables sequences = (.error .other, sequences) := by
      simp only [adminEngine, insertAudit, statement, fits, Bool.not_false, if_true]
    have rolledBack := Session.commit_stage_error idle refused
    simp only [Script.run, List.headD_nil, rolledBack, committedAnswer, if_neg fits]
    rfl

/-- A decision is answered with its audit row. -/
theorem answered_of_ok {user : Option User} {outcome : AuthOutcome}
    (found : findByUsername fold tables.identity.users req.username = .ok user)
    (evaluated : (evaluate user (resolveLdapEndpoint fold tables.systemSettings) req.password
      (verifyLdapPassword server)).1 = .ok outcome) :
    answered fold server tables sequences req =
      committedAnswer tables (authAudit req user outcome) ⟨outcome.result, outcome.reason⟩ := by
  have here : (Session.start tables sequences :
    Session AdminTables AdminSequences AdminChange).working.tables = tables := rfl
  simp only [answered, mavisAuthHandler, Script.run, List.headD_nil, List.tail_nil, here, found,
    evaluated]
  exact run_committedAnswer

/-- An exception of the decision is neither recorded nor answered. -/
theorem answered_of_error {user : Option User}
    (found : findByUsername fold tables.identity.users req.username = .ok user)
    (evaluated : (evaluate user (resolveLdapEndpoint fold tables.systemSettings) req.password
      (verifyLdapPassword server)).1 = .error ()) :
    answered fold server tables sequences req = (⟨tables, []⟩, .raised) := by
  have here : (Session.start tables sequences :
    Session AdminTables AdminSequences AdminChange).working.tables = tables := rfl
  simp only [answered, mavisAuthHandler, Script.run, List.headD_nil, List.tail_nil, here, found,
    evaluated]
  rfl

/-- A request raises exactly where `Server(...)` does. -/
theorem evaluate_error_iff (raises : RaisesLdapOnly server) {user : Option User}
    (found : findByUsername fold tables.identity.users req.username = .ok user) :
    (evaluate user (resolveLdapEndpoint fold tables.systemSettings) req.password
        (verifyLdapPassword server)).1 = .error () ↔ ServerRaises fold server tables req := by
  constructor
  · intro raised
    have ways := evaluate_evaluation user (resolveLdapEndpoint fold tables.systemSettings)
      req.password server
    rw [raised] at ways
    generalize result : (Except.error () : Except Unit AuthOutcome) = value at ways
    cases ways with
    | unknownUser => cases result
    | userDisabled => cases result
    | notConfigured => cases result
    | noDn => cases result
    | verified row target same enabled configured bindDn =>
      have uncaught : (verifyLdapPassword server target row.distinguishedName req.password).1 =
          .error .uncaught := by
        cases answer : (verifyLdapPassword server target row.distinguishedName req.password).1 with
        | error error =>
          rw [answer] at result
          cases error
          · cases result
          · rfl
        | ok verified =>
          rw [answer] at result
          cases verified <;> cases result
      obtain ⟨password, construct⟩ := (verifyLdapPassword_uncaught_iff raises).mp uncaught
      rw [same] at found
      exact ⟨row, target, ⟨found, enabled, configured, bindDn, password⟩, construct⟩
  · intro reached
    obtain ⟨row, target, attempts, construct⟩ := reached
    have same : user = some row := Except.ok.inj (found.symm.trans attempts.found)
    have uncaught : (verifyLdapPassword server target row.distinguishedName req.password).1 =
        .error .uncaught :=
      (verifyLdapPassword_uncaught_iff raises).mpr ⟨attempts.password, construct⟩
    cases answer : verifyLdapPassword server target row.distinguishedName req.password with
    | mk value binds =>
      rw [answer] at uncaught
      have thrown : value = .error .uncaught := uncaught
      rw [same, attempts.configured]
      simp only [evaluate, attempts.enabled, Bool.not_true, Bool.false_eq_true, if_false,
        if_neg attempts.bindDn, answer, thrown]

/-- A decision that is neither an acceptance nor a refusal is an error. -/
theorem evaluate_failed {user : Option User} {outcome : AuthOutcome}
    (found : findByUsername fold tables.identity.users req.username = .ok user)
    (evaluated : (evaluate user (resolveLdapEndpoint fold tables.systemSettings) req.password
      (verifyLdapPassword server)).1 = .ok outcome) (failed : outcome.result ≠ .ack) :
    Refusal fold server tables req ∨ outcome.result = .err := by
  have ways := evaluate_evaluation user (resolveLdapEndpoint fold tables.systemSettings)
    req.password server
  rw [evaluated] at ways
  generalize result : Except.ok outcome = value at ways
  cases ways with
  | unknownUser missing =>
    rw [missing] at found
    exact .inl (.unknownUser found)
  | userDisabled row same disabled =>
    rw [same] at found
    exact .inl (.userDisabled row found disabled)
  | notConfigured =>
    cases result
    exact .inr rfl
  | noDn =>
    cases result
    exact .inr rfl
  | verified row target same enabled configured bindDn =>
    cases answer : (verifyLdapPassword server target row.distinguishedName req.password).1 with
    | error error =>
      rw [answer] at result
      cases error <;> cases result
      exact .inr rfl
    | ok verified =>
      rw [answer] at result
      cases verified with
      | true =>
        cases result
        exact absurd rfl failed
      | false =>
        left
        by_cases empty : req.password = ""
        · exact .emptyPassword empty
        obtain none | rejected := verifyLdapPassword_false answer
        · exact absurd none empty
        obtain ⟨description, credentials, reply⟩ := rejected
        rw [same] at found
        exact .rejected row target description ⟨found, enabled, configured, bindDn, empty⟩ reply
          credentials

/-- The requests that get a verdict and an audit row are all but those that get as far as an endpoint
that `Server(...)` does not take. -/
theorem answeredAndAudited_iff (raises : RaisesLdapOnly server) (valid : tables.Valid fold)
    (fits : AuditRowFits fold tables req) :
    AnsweredAndAudited fold server tables sequences req ↔
      ¬ServerRaises fold server tables req := by
  obtain ⟨user, found⟩ := findByUsername_ok valid.identity req.username
  constructor
  · intro complete reached
    obtain ⟨response, row, ended, -⟩ := complete
    have raised : answered fold server tables sequences req = (⟨tables, []⟩, .raised) :=
      answered_of_error found ((evaluate_error_iff raises found).mpr reached)
    rw [raised] at ended
    cases ended
  · intro spared
    cases evaluated : (evaluate user (resolveLdapEndpoint fold tables.systemSettings) req.password
        (verifyLdapPassword server)).1 with
    | error error => exact absurd ((evaluate_error_iff raises found).mp evaluated) spared
    | ok outcome =>
      have row := authAudit_fits (fits user found) (evaluate_reason evaluated)
      have ended : answered fold server tables sequences req =
          (⟨withAudit tables (authAudit req user outcome), [.audit (authAudit req user outcome)]⟩,
            .answered ⟨outcome.result, outcome.reason⟩) := by
        rw [answered_of_ok found evaluated, committedAnswer, if_pos row]
      exact ⟨_, _, congrArg Prod.snd ended, congrArg Prod.fst ended, authAudit_action_iff,
        evaluate_failed found evaluated⟩

end Transaction

/-! ## A port that is not a number -/

/-- A URL that `PUT /settings/ldap` accepts. -/
def badPortUrl : LdapSettingsUpdate := ⟨"ldap://dc1:abc", by decide, by decide⟩

/-- One row of everything and an `ldap.url`. -/
def withLdapUrl (url : String) : AdminTables :=
  { oneOfEach with systemSettings := (∅ : Dict String String).set "ldap.url" url }

/-- The one user asks. -/
def annaAsks : AuthRequest where
  username := "anna"
  password := "secret"
  nasIp := some "10.0.0.1"
  usernameLength := by decide
  passwordLength := by decide
  nasIpLength := by
    intro ip sent
    cases sent
    decide

/-- A directory that rejects every password, behind a library that takes numbers for ports. -/
def rejectingServer : LdapServer where
  construct endpoint := if endpoint.url = badPortUrl.url then some .ldapException else none
  connect _ _ _ := none
  bind _ _ _ := .refused "invalidCredentials"
  close _ _ _ := none

/-- The server that rejects every password raises nothing but `LDAPException`s. -/
theorem rejectingServer_raises : RaisesLdapOnly rejectingServer where
  construct endpoint fault raised := by
    by_cases bad : endpoint.url = badPortUrl.url
    · simp only [rejectingServer, if_pos bad] at raised
      exact (Option.some.inj raised).symm
    · simp only [rejectingServer, if_neg bad] at raised
      cases raised
  connect _ _ _ _ raised := by cases raised
  bind _ _ _ _ raised := by cases raised
  close _ _ _ _ raised := by cases raised

/-- A setting breaks no constraint. -/
theorem withLdapUrl_valid (url : String) : (withLdapUrl url).Valid .ascii :=
  { oneOfEach_valid with }

/-- What the one user asks for fits. -/
theorem annaAsks_fits (url : String) : AuditRowFits .ascii (withLdapUrl url) annaAsks := by
  intro user found
  have row : findByUsername .ascii (withLdapUrl url).identity.users annaAsks.username =
      .ok (some ⟨1, "anna", none, "CN=Anna", none, none, true, none⟩) := by
    change findByUsername .ascii oneOfEach.identity.users annaAsks.username = _
    rfl
  rw [row] at found
  cases found
  constructor <;> decide

/-- A rejected password gets a verdict. -/
theorem answeredAndAudited_rejected :
    AnsweredAndAudited .ascii rejectingServer (withLdapUrl "ldaps://dc1:636") ⟨2, 2, 2, 2⟩
        annaAsks ↔
      ¬ServerRaises .ascii rejectingServer (withLdapUrl "ldaps://dc1:636") annaAsks :=
  answeredAndAudited_iff rejectingServer_raises (withLdapUrl_valid _) (annaAsks_fits _)

/-- With a port that is not a number, which the settings accept, a request gets no answer. -/
theorem badPort_unanswered :
    ¬ ∀ (fold : CaseFolding) (server : LdapServer) (tables : AdminTables)
        (sequences : AdminSequences) (req : AuthRequest), RaisesLdapOnly server →
      tables.Valid fold → LdapUrlAccepted tables.systemSettings →
        AuditRowFits fold tables req → AnsweredAndAudited fold server tables sequences req := by
  intro claimed
  have accepted : LdapUrlAccepted (withLdapUrl badPortUrl.url).systemSettings := by
    intro url found
    have set : ((∅ : Dict String String).set "ldap.url" badPortUrl.url).get? "ldap.url" =
      some url := found
    rw [Dict.get?_set_self] at set
    exact ⟨badPortUrl, Option.some.inj set⟩
  obtain ⟨response, row, ended, -⟩ := claimed .ascii rejectingServer (withLdapUrl badPortUrl.url)
    ⟨2, 2, 2, 2⟩ annaAsks rejectingServer_raises (withLdapUrl_valid _) accepted (annaAsks_fits _)
  have raised : (answered .ascii rejectingServer (withLdapUrl badPortUrl.url) ⟨2, 2, 2, 2⟩
      annaAsks).2 = .raised := by
    decide +kernel
  rw [raised] at ended
  cases ended

end TacacsWeb.Verif
