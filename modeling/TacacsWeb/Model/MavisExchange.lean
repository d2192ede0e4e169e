import TacacsWeb.Library.Result
import TacacsWeb.Model.InternalMavis
import TacacsWeb.Model.MavisChild

/-!
# The MAVIS child talking to the backend

The two programs put together: a request of the child is validated, handled by its endpoint
and answered with the JSON of the response, or with the error status that the framework
gives it. Every call may also fail on its way, before or after the backend has handled it,
and then ends in anything but an acceptance.
-/

namespace TacacsWeb.Model

open TacacsWeb.Library

/-- What the backend answers from: its tables, the directory server, and the orders in which
its queries return rows. -/
structure MavisBackend where
  /-- The two lower-casing functions. -/
  fold : CaseFolding
  /-- The tables. -/
  db : Database
  /-- The directory server. -/
  server : LdapServer
  /-- The order of the device query. -/
  deviceOrder : RowOrder Device
  /-- The order of the authorization query. -/
  authorizationOrder : RowOrder Authorization

/-! ## Validation -/

/-- The bounds of an `AuthRequest`, checked in one go. -/
def AuthRequest.make (username password : String) (nasIp : Option String) : Option AuthRequest :=
  if bounds : (1 ≤ username.length ∧ username.length ≤ 256) ∧ password.length ≤ 1024 ∧
      ∀ ip ∈ nasIp, ip.length ≤ 64 then
    some ⟨username, password, nasIp, bounds.1, bounds.2.1,
      fun ip given => bounds.2.2 ip (Option.mem_def.mpr given)⟩
  else none

/-- Validation of the body of `POST /auth`: a string with a lone surrogate is refused. -/
def AuthRequest.validate (payload : Dict String PyString) : Option AuthRequest :=
  match payload.get? "username", payload.get? "password", payload.get? "nas_ip" with
  | some (.text username), some (.text password), none => make username password none
  | some (.text username), some (.text password), some (.text nasIp) =>
    make username password (some nasIp)
  | _, _, _ => none

/-- Validation of the body of `POST /info`. -/
def InfoRequest.validate (payload : Dict String PyString) : Option InfoRequest :=
  match payload.get? "username", payload.get? "nas_ip" with
  | some (.text username), some (.text nasIp) =>
    if bounds : (1 ≤ username.length ∧ username.length ≤ 256) ∧
        1 ≤ nasIp.length ∧ nasIp.length ≤ 64 then
      some ⟨username, nasIp, bounds.1, bounds.2⟩
    else none
  | _, _ => none

/-! ## Responses -/

/-- An optional text in JSON. -/
def Json.ofOption : Option String → Json
  | none => .null
  | some value => .string (.text value)

/-- The JSON of an `AuthResponse`. -/
def AuthResponse.toJson (response : AuthResponse) : Json :=
  .object [(.text "result", .string (.text response.result.code)),
    (.text "reason", .ofOption response.reason)]

/-- The JSON of an `InfoResponse`. -/
def InfoResponse.toJson (response : InfoResponse) : Json :=
  .object [(.text "result", .string (.text response.result.code)),
    (.text "reason", .ofOption response.reason), (.text "profile", .ofOption response.profile)]

/-- `POST /internal/mavis/auth` on a payload. -/
def MavisBackend.serveAuth (site : MavisBackend) (payload : Dict String PyString) :
    WithBinds HttpReply :=
  match AuthRequest.validate payload with
  | none => (.error (.httpError 422), [])
  | some req =>
    match mavisAuth site.fold site.db site.server req with
    | (.error _, binds) => (.error (.httpError 500), binds)
    | (.ok (response, _), binds) => (.ok response.toJson, binds)

/-- `POST /internal/mavis/info` on a payload. -/
def MavisBackend.serveInfo (site : MavisBackend) (payload : Dict String PyString) : HttpReply :=
  match InfoRequest.validate payload with
  | none => .error (.httpError 422)
  | some req =>
    match mavisInfo site.fold site.db site.deviceOrder site.authorizationOrder req with
    | .error _ => .error (.httpError 500)
    | .ok (response, _) => .ok response.toJson

/-- The reply to a request, with the binds attempted for it. -/
def MavisBackend.serve (site : MavisBackend) (request : HttpRequest) : WithBinds HttpReply :=
  if request.path = "/internal/mavis/auth" then site.serveAuth request.payload
  else if request.path = "/internal/mavis/info" then (site.serveInfo request.payload, [])
  else (.error (.httpError 404), [])

/-! ## Exchanges -/

/-- What becomes of one call. -/
inductive Delivery where
  /-- The backend handles the request and its reply arrives. -/
  | arrives
  /-- The call ends in something else, whether or not the backend handled the request. -/
  | fails (handled : Bool) (reply : HttpReply) (refused : replyVerdict reply ≠ .ack)

/-- A backend together with what becomes of the calls to it. -/
structure MavisExchange extends MavisBackend where
  /-- What becomes of the call of a number. -/
  delivery : Nat → Delivery

namespace MavisExchange

/-- The backend as the child sees it. -/
def backend (exchange : MavisExchange) : Backend := fun call request =>
  match exchange.delivery call with
  | .arrives => (exchange.serve request).1
  | .fails _ reply _ => reply

/-- The binds attempted for one call. -/
def bindsOf (exchange : MavisExchange) (call : Nat) (request : HttpRequest) : List BindAttempt :=
  match exchange.delivery call with
  | .arrives => (exchange.serve request).2
  | .fails handled _ _ => if handled then (exchange.serve request).2 else []

/-- The binds attempted for the calls of one packet. -/
def binds (exchange : MavisExchange) : Nat → List HttpRequest → List BindAttempt
  | _, [] => []
  | call, request :: requests =>
    exchange.bindsOf call request ++ binds exchange (call + 1) requests

end MavisExchange

/-! ## What an acceptance rests on -/

/-- An endpoint is only resolved from a nonempty `ldap.url`. -/
theorem resolveLdapEndpoint_isSome {fold : CaseFolding} {settings : Dict String String}
    (resolved : (resolveLdapEndpoint fold settings).isSome = true) :
    ∃ url, settings.get? "ldap.url" = some url ∧ url ≠ "" := by
  unfold resolveLdapEndpoint at resolved
  cases found : settings.get? "ldap.url" with
  | none => simp [found] at resolved
  | some url =>
    refine ⟨url, rfl, ?_⟩
    rintro rfl
    simp [found] at resolved

/-- The row behind an acceptance of `mavis_auth`. -/
theorem mavisAuth_ack {fold : CaseFolding} {db : Database} {server : LdapServer}
    {req : AuthRequest} {response : AuthResponse} {audit : AuditLog} {binds : List BindAttempt}
    (handled : mavisAuth fold db server req = (.ok (response, audit), binds))
    (accepted : response.result = .ack) :
    ∃ user, findByUsername fold db.identity.users req.username = .ok (some user) ∧
      user.enabled = true ∧ (resolveLdapEndpoint fold db.systemSettings).isSome = true ∧
      user.distinguishedName ≠ "" ∧ req.password ≠ "" ∧
      AcceptedBind user.distinguishedName req.password binds := by
  unfold mavisAuth at handled
  split at handled
  · cases handled
  · rename_i user found
    split at handled
    · cases handled
    · rename_i outcome tried evaluated
      obtain ⟨answered, rfl⟩ := Prod.mk.inj handled
      obtain ⟨-, same⟩ := ite_eq_ok.mp answered
      cases same
      obtain ⟨row, rfl, rest⟩ := evaluate_ack evaluated accepted
      exact ⟨row, found, rest⟩

/-- The row and the rule behind an acceptance of `mavis_info`. -/
theorem mavisInfo_ack {fold : CaseFolding} {db : Database} {deviceOrder : RowOrder Device}
    {authorizationOrder : RowOrder Authorization} {req : InfoRequest} {response : InfoResponse}
    {audit : AuditLog}
    (handled : mavisInfo fold db deviceOrder authorizationOrder req = .ok (response, audit))
    (accepted : response.result = .ack) :
    ∃ user device winner, findByUsername fold db.identity.users req.username = .ok (some user) ∧
      resolveDeviceForIp req.nasIp (deviceOrder.rows db.devices) = some device ∧
      (evaluateForUser (db.identity.load user) device.deviceGroupId
        (db.selectAuthorizations authorizationOrder fun auth =>
          auth.deviceGroupId = device.deviceGroupId)).winning = some winner ∧
      response.profile = some (renderTacprofile winner.privilegeProfile) := by
  unfold mavisInfo at handled
  split at handled
  · cases handled
  · rename_i user found
    obtain ⟨-, same⟩ := ite_eq_ok.mp handled
    cases same
    unfold resolveInfo at accepted ⊢
    split at accepted
    · cases accepted
    · rename_i row
      split at accepted
      · cases accepted
      · rename_i enabled
        split at accepted
        · cases accepted
        · rename_i device resolved
          simp only at accepted
          split at accepted
          · cases accepted
          · rename_i profile granted
            obtain ⟨winner, wins, rfl⟩ := Option.map_eq_some_iff.mp granted
            refine ⟨row, device, winner, found, resolved, wins, ?_⟩
            simp [enabled, granted]

end TacacsWeb.Model
