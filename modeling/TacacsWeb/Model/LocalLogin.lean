import TacacsWeb.Model.Sessions

/-!
# The local break-glass login

`login_local` of `app.api.auth_local`. The handler stages a session and an audit row, or an
audit row alone, and commits once. A value that its column does not take fails the commit
and with it the request.
-/

namespace TacacsWeb.Model

open TacacsWeb.Library TacacsWeb.Library.IpAddress

/-- A row of `local_admin`. -/
structure LocalAdmin where
  /-- Primary key. -/
  id : Nat
  /-- The login name. -/
  username : String
  /-- What `hash_password` made of the password. -/
  passwordArgon2Hash : String
  /-- The addresses that may log in, any when unset. -/
  allowedSourceCidr : Option String
  /-- When the account logged in last. -/
  lastLoginAt : Option Nat
  /-- `local_admin_singleton`. -/
  singleton : id = 1
  /-- The column is 64 characters wide. -/
  usernameLength : username.length ≤ 64

/-- `LoginRequest`. -/
structure LoginRequest where
  /-- The login name. -/
  username : String
  /-- The password. -/
  password : String
  /-- `min_length=1, max_length=64`. -/
  usernameLength : 1 ≤ username.length ∧ username.length ≤ 64
  /-- `min_length=1, max_length=1024`. -/
  passwordLength : 1 ≤ password.length ∧ password.length ≤ 1024

/-- `LoginResponse`. -/
structure LoginResponse where
  /-- The name of the account. -/
  username : String
  /-- Its role. -/
  role : String
  /-- How it was authenticated. -/
  authMethod : String
deriving DecidableEq

/-- The tables that the login handlers write. -/
structure LoginTables where
  /-- `local_admin`. -/
  localAdmins : List LocalAdmin
  /-- `web_session`. -/
  sessions : List WebSession
  /-- `audit_log`. -/
  audit : List AuditLog

/-- `_cidr_allows`. -/
def cidrAllows (cidr clientIp : Option String) : Bool :=
  match cidr with
  | none => true
  | some cidr =>
    if cidr = "" then true
    else match clientIp with
      | none => false
      | some clientIp =>
        match ipAddress clientIp.toList, ipNetwork cidr.toList with
        | some address, some network => network.contains address
        | _, _ => false

/-- `verify_password`, for the verification of a hash by argon2. -/
def verifyPassword (verify : String → String → Bool) (storedHash plain : String) : Bool :=
  if plain = "" ∨ storedHash = "" then false else verify storedHash plain

/-- The account with a login name. A NUL in the name makes the query fail. -/
def findLocalAdmin (admins : List LocalAdmin) (username : String) :
    Except HttpError (Option LocalAdmin) :=
  if textFits none (some username) then .ok (admins.find? fun admin => admin.username = username)
  else .error internalServerError

/-- The commit of a login: a session if there is one and the audit row, both or neither. -/
def commitLogin (tables : LoginTables) (session : Option WebSession) (row : AuditLog) :
    Except HttpError LoginTables :=
  if session.all WebSession.fits && row.fits then
    .ok { tables with
      sessions := tables.sessions ++ session.toList
      audit := tables.audit ++ [row] }
  else .error internalServerError

/-- The audit row of a local login that is refused. -/
def localLoginFailed (payload : LoginRequest) (request : ClientRequest) (accepted : Bool) :
    AuditLog where
  actorId := none
  actorUsernameSnapshot := payload.username
  actorRole := "unknown"
  authMethod := LoginMethod.localAdmin.code
  action := .authLoginFailed
  targetType := none
  targetId := none
  summary := some (if accepted then "cidr_denied" else "bad_password")
  clientIp := request.clientIp
  userAgent := request.userAgent

/-- The audit row of a local login that goes through. -/
def localLoginSucceeded (admin : LocalAdmin) (request : ClientRequest) : AuditLog where
  actorId := some admin.id
  actorUsernameSnapshot := admin.username
  actorRole := "admin"
  authMethod := LoginMethod.localAdmin.code
  action := .authLoginSucceeded
  targetType := none
  targetId := none
  summary := none
  clientIp := request.clientIp
  userAgent := request.userAgent

/-- `login_local`: the tables after the request, and the response with its cookie. -/
def loginLocal (verify : String → String → Bool) (sessionCookieSecure : Bool)
    (tables : LoginTables) (now : Nat) (token : SessionToken) (payload : LoginRequest)
    (request : ClientRequest) : LoginTables × Except HttpError (LoginResponse × SetCookie) :=
  match findLocalAdmin tables.localAdmins payload.username with
  | .error error => (tables, .error error)
  | .ok found =>
    let accepted := found.any fun admin => verifyPassword verify admin.passwordArgon2Hash
      payload.password
    let cidrOk := found.all fun admin => cidrAllows admin.allowedSourceCidr request.clientIp
    match found with
    | some admin =>
      if accepted && cidrOk then
        let session := createSession now token admin.username "admin" .localAdmin (some admin.id)
          request.clientIp
        let admins := tables.localAdmins.map fun other =>
          if other.id = admin.id then { other with lastLoginAt := some session.createdAt }
          else other
        match commitLogin { tables with localAdmins := admins } session
            (localLoginSucceeded admin request) with
        | .error error => (tables, .error error)
        | .ok after =>
          (after, .ok (⟨admin.username, "admin", LoginMethod.localAdmin.code⟩,
            sessionCookie sessionCookieSecure session.token))
      else refuse accepted
    | none => refuse accepted
where
  /-- The refusal, whose audit row is committed before the answer. -/
  refuse (accepted : Bool) : LoginTables × Except HttpError (LoginResponse × SetCookie) :=
    match commitLogin tables none (localLoginFailed payload request accepted) with
    | .error error => (tables, .error error)
    | .ok after => (after, .error ⟨401, some "invalid_credentials"⟩)

end TacacsWeb.Model
