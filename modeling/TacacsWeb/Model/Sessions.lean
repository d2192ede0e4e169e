import TacacsWeb.Library.Table
import TacacsWeb.Model.Devices

/-!
# Web sessions

`app.auth.sessions`: rows of `web_session` that are created at a login, slid by every
authenticated request and deleted by a logout or by the first request that finds them
expired. `logout` of `app.api.auth_local` stands here too. A time is a number of
microseconds.
-/

namespace TacacsWeb.Model

open TacacsWeb.Library

/-- `SESSION_COOKIE_NAME`. -/
def sessionCookieName : String := "tacacs_web_session"

/-- A number of hours in microseconds. -/
def hours (count : Nat) : Nat := count * 3600 * 1000000

/-- `SESSION_SLIDING_LIFETIME`. -/
def sessionSlidingLifetime : Nat := hours 8

/-- `SESSION_HARD_LIFETIME`. -/
def sessionHardLifetime : Nat := hours 24

/-- A character of base64url. -/
def isBase64Url (char : Char) : Bool := char.isAlphanum || char = '-' || char = '_'

/-- What `_new_token` returns: 256 random bits in base64url. -/
structure SessionToken where
  /-- The text of the token. -/
  value : String
  /-- Its length. -/
  sized : value.length = 43
  /-- Its characters. -/
  encoded : value.toList.all isBase64Url = true

/-- How a caller logged in. -/
inductive LoginMethod where
  /-- With the local admin. -/
  | localAdmin
  /-- With SAML. -/
  | saml
deriving DecidableEq

/-- The stored code of a login method. -/
def LoginMethod.code : LoginMethod → String
  | localAdmin => "local"
  | saml => "saml"

/-- A row of `web_session`. -/
structure WebSession where
  /-- Primary key, and the value of the cookie. -/
  token : String
  /-- How the caller logged in. -/
  authMethod : LoginMethod
  /-- The local admin, of a session of theirs. -/
  localAdminId : Option Nat
  /-- The name the caller logged in with. -/
  usernameSnapshot : String
  /-- The role of the session. -/
  role : String
  /-- When it was created. -/
  createdAt : Nat
  /-- When it was used last. -/
  lastSeenAt : Nat
  /-- When it expires unless it is used. -/
  expiresAt : Nat
  /-- When it expires at the latest. -/
  hardExpiresAt : Nat
  /-- The address the login came from. -/
  clientIp : Option String
deriving DecidableEq

/-- The database takes the row: every value fits its column. -/
def WebSession.fits (row : WebSession) : Bool :=
  textFits (some 64) (some row.token) && textFits (some 16) (some row.authMethod.code) &&
    integerFits (row.localAdminId.map fun id : Nat => (id : Int)) &&
    textFits (some 256) (some row.usernameSnapshot) && textFits (some 16) (some row.role) &&
    textFits (some 64) row.clientIp

/-- The address and the browser of a request. -/
structure ClientRequest where
  /-- `request.client.host`. -/
  clientIp : Option String
  /-- `request.headers.get("user-agent")`. -/
  userAgent : Option String
deriving DecidableEq

/-- `create_session`. -/
def createSession (now : Nat) (token : SessionToken) (username role : String)
    (authMethod : LoginMethod) (actorId : Option Nat) (clientIp : Option String) : WebSession where
  token := token.value
  authMethod := authMethod
  localAdminId := if authMethod = .localAdmin then actorId else none
  usernameSnapshot := username
  role := role
  createdAt := now
  lastSeenAt := now
  expiresAt := now + sessionSlidingLifetime
  hardExpiresAt := now + sessionHardLifetime
  clientIp := clientIp

/-- `session.get(WebSession, token)`. -/
def getWebSession (sessions : List WebSession) (token : String) : Option WebSession :=
  sessions.find? fun row => row.token = token

/-- `session.delete(row)`. -/
def deleteWebSession (sessions : List WebSession) (token : String) : List WebSession :=
  sessions.filter fun row => row.token ≠ token

/-- `revoke_session`. -/
def revokeSession (sessions : List WebSession) (token : String) : List WebSession × Bool :=
  match getWebSession sessions token with
  | none => (sessions, false)
  | some _ => (deleteWebSession sessions token, true)

/-- `_load_active_session`. -/
def loadActiveSession (sessions : List WebSession) (token : String) (now : Nat) :
    List WebSession × Option WebSession :=
  match getWebSession sessions token with
  | none => (sessions, none)
  | some row =>
    if now ≥ row.hardExpiresAt ∨ now ≥ row.expiresAt then (deleteWebSession sessions token, none)
    else (sessions, some row)

/-- A session context with the token of its session. -/
structure ActiveSession extends SessionContext where
  /-- The token. -/
  token : String
deriving DecidableEq

/-- `require_session`. -/
def requireSession (sessions : List WebSession) (now : Nat) (cookieToken : Option String)
    (request : ClientRequest) : List WebSession × Except HttpError ActiveSession :=
  match cookieToken with
  | none => (sessions, .error ⟨401, some "no_session"⟩)
  | some token =>
    if token = "" then (sessions, .error ⟨401, some "no_session"⟩)
    else match loadActiveSession sessions token now with
      | (sessions, none) => (sessions, .error ⟨401, some "session_expired"⟩)
      | (sessions, some row) =>
        -- Slide the expiry, but never past the hard cap.
        let row := { row with
          lastSeenAt := now
          expiresAt := min (now + sessionSlidingLifetime) row.hardExpiresAt }
        (replaceRow WebSession.token row sessions, .ok {
          token := row.token
          username := row.usernameSnapshot
          role := row.role
          authMethod := row.authMethod.code
          actorId := row.localAdminId
          clientIp := request.clientIp
          userAgent := request.userAgent })

/-- A `Set-Cookie` header. -/
structure SetCookie where
  /-- The name of the cookie. -/
  name : String
  /-- Its value. -/
  value : String
  /-- `Max-Age`, in seconds. -/
  maxAge : Nat
  /-- `HttpOnly`. -/
  httponly : Bool
  /-- `Secure`. -/
  secure : Bool
  /-- `SameSite`. -/
  samesite : String
  /-- `Path`. -/
  path : String
deriving DecidableEq

/-- `response.set_cookie` of the two login handlers, for `settings.session_cookie_secure`. -/
def sessionCookie (sessionCookieSecure : Bool) (token : String) : SetCookie where
  name := sessionCookieName
  value := token
  maxAge := sessionSlidingLifetime / 1000000
  httponly := true
  secure := sessionCookieSecure
  samesite := "lax"
  path := "/"

/-- `response.delete_cookie(SESSION_COOKIE_NAME, path="/")`. -/
def deletedSessionCookie : SetCookie where
  name := sessionCookieName
  value := ""
  maxAge := 0
  httponly := false
  secure := false
  samesite := "lax"
  path := "/"

/-- The error response to an exception that no handler catches. -/
def internalServerError : HttpError := ⟨500, none⟩

/-- `logout`: the sessions and the audit rows after it, and the response. -/
def logout (sessions : List WebSession) (audit : List AuditLog) (now : Nat)
    (cookieToken : Option String) (request : ClientRequest) :
    (List WebSession × List AuditLog) × Except HttpError SetCookie :=
  match requireSession sessions now cookieToken request with
  | (sessions, .error error) => ((sessions, audit), .error error)
  | (sessions, .ok ctx) =>
    let row : AuditLog := {
      actorId := ctx.actorId
      actorUsernameSnapshot := ctx.username
      actorRole := ctx.role
      authMethod := ctx.authMethod
      action := .authLogout
      targetType := none
      targetId := none
      summary := none
      clientIp := ctx.clientIp
      userAgent := ctx.userAgent }
    -- The deletion and the audit row are committed together or not at all.
    if row.fits then
      (((revokeSession sessions ctx.token).1, audit ++ [row]), .ok deletedSessionCookie)
    else ((sessions, audit), .error internalServerError)

end TacacsWeb.Model
