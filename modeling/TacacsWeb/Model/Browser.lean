import TacacsWeb.Model.SamlRoutes

/-!
# The browser of a session

A browser keeps the session cookie for the `Max-Age` of the last `Set-Cookie` it received. The
login handlers set the cookie; of the routes behind `require_session` only the logout sends a
`Set-Cookie`.
-/

namespace TacacsWeb.Model

/-- The session cookie in a browser. -/
structure BrowserCookie where
  /-- Its value. -/
  value : String
  /-- When the browser drops it. -/
  keptUntil : Nat
deriving DecidableEq

/-- The cookie after a `Set-Cookie` that is received at some time. -/
def BrowserCookie.receive (now : Nat) (cookie : SetCookie) : BrowserCookie :=
  ⟨cookie.value, now + cookie.maxAge * 1000000⟩

/-- The browser still holds the cookie. -/
def BrowserCookie.Held (cookie : BrowserCookie) (now : Nat) : Prop := now < cookie.keptUntil

instance (cookie : BrowserCookie) (now : Nat) : Decidable (cookie.Held now) :=
  inferInstanceAs (Decidable (now < cookie.keptUntil))

/-- The cookie that the browser sends. -/
def BrowserCookie.sent (cookie : BrowserCookie) (now : Nat) : Option String :=
  if cookie.Held now then some cookie.value else none

/-- The `Set-Cookie` headers of the response to an authenticated request that is no logout. -/
def requestSetCookies : List SetCookie := []

/-- The cookie after the headers of one response. -/
def BrowserCookie.receiveAll (cookie : BrowserCookie) (now : Nat) (headers : List SetCookie) :
    BrowserCookie :=
  headers.foldl (fun _ header => .receive now header) cookie

/-- At each of these requests the browser holds the cookie and the session check passes. -/
def KeepsSession : List WebSession → BrowserCookie → List (Nat × ClientRequest) → Prop
  | _, _, [] => True
  | sessions, cookie, (now, request) :: later =>
    let answered := requireSession sessions now (cookie.sent now) request
    cookie.Held now ∧ (∃ ctx, answered.2 = .ok ctx) ∧
      KeepsSession answered.1 (cookie.receiveAll now requestSetCookies) later

/-- A login went through, on either route: the tables after it and the cookie it set. -/
inductive LoggedIn (verify : String → String → Bool) (env : SamlEnvironment)
    (tables : LoginTables) (now : Nat) (token : SessionToken) :
    LoginTables → SetCookie → Prop where
  /-- With the local admin. -/
  | localAdmin {payload : LoginRequest} {request : ClientRequest} {after : LoginTables}
    {response : LoginResponse} {cookie : SetCookie}
    (answered : loginLocal verify env.sessionCookieSecure tables now token payload request =
      (after, .ok (response, cookie))) : LoggedIn verify env tables now token after cookie
  /-- With SAML. -/
  | saml {request : AcsRequest} {after : LoginTables} {url : String} {cookie : SetCookie}
    (answered : samlAcs env tables now token request = (after, .ok (url, cookie))) :
    LoggedIn verify env tables now token after cookie

end TacacsWeb.Model
