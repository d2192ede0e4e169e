import TacacsWeb.Library.Run
import TacacsWeb.Model.Sessions

/-!
# Runs of web sessions

Logins, authenticated requests and logouts one after the other, each at the time that its
handler reads from the clock. The history keeps what happened, earliest first.
-/

namespace TacacsWeb.Model

open TacacsWeb.Library

/-- What happens to the sessions. -/
inductive SessionEvent where
  /-- A login creates a session. -/
  | create (token : SessionToken) (username role : String) (authMethod : LoginMethod)
    (actorId : Option Nat) (clientIp : Option String)
  /-- A request comes in that needs a session. -/
  | request (cookieToken : Option String) (request : ClientRequest)
  /-- The caller logs out. -/
  | logout (cookieToken : Option String) (request : ClientRequest)

/-- The cookie that comes with an authenticated request or a logout. -/
def SessionEvent.cookieToken : SessionEvent → Option String
  | .create .. => none
  | .request cookieToken _ => cookieToken
  | .logout cookieToken _ => cookieToken

/-- An event with its time and the status that it was answered with. -/
structure SessionRecord where
  /-- The time. -/
  now : Nat
  /-- The event. -/
  event : SessionEvent
  /-- The status code. A request that passes the session check counts as answered with 200. -/
  status : Nat

namespace SessionRecord

/-- The session of a token was created. -/
def Creates (token : String) (record : SessionRecord) : Prop :=
  match record.event with
  | .create created .. => created.value = token
  | _ => False

/-- A request or a logout with a token passed the session check. -/
def Accepts (token : String) (record : SessionRecord) : Prop :=
  record.event.cookieToken = some token ∧ record.status ≠ 401

/-- A token was rejected or its holder logged out. -/
def Ends (token : String) (record : SessionRecord) : Prop :=
  record.event.cookieToken = some token ∧ (record.status = 401 ∨
    ∃ request, record.event = .logout (some token) request ∧ record.status = 204)

end SessionRecord

/-- The tables that the events read and write, and the events so far. -/
structure SessionSystem where
  /-- `web_session`. -/
  sessions : List WebSession
  /-- `audit_log`, less the rows of other handlers. -/
  audit : List AuditLog
  /-- The events so far, earliest first. -/
  history : List SessionRecord

namespace SessionSystem

/-- An empty database. -/
def empty : SessionSystem := ⟨[], [], []⟩

/-- The status that a response is sent with. -/
def statusOf {Response : Type} (success : Nat) : Except HttpError Response → Nat
  | .ok _ => success
  | .error error => error.status

/-- One event at its time. -/
def step : Step SessionSystem (Nat × SessionEvent)
  | state, (now, .create token username role authMethod actorId clientIp) =>
    let row := createSession now token username role authMethod actorId clientIp
    let record := ⟨now, .create token username role authMethod actorId clientIp, 200⟩
    some { state with sessions := state.sessions ++ [row], history := state.history ++ [record] }
  | state, (now, .request cookieToken request) =>
    let (sessions, response) := requireSession state.sessions now cookieToken request
    let record := ⟨now, .request cookieToken request, statusOf 200 response⟩
    some { state with sessions := sessions, history := state.history ++ [record] }
  | state, (now, .logout cookieToken request) =>
    let ((sessions, audit), response) :=
      logout state.sessions state.audit now cookieToken request
    let record := ⟨now, .logout cookieToken request, statusOf 204 response⟩
    some { sessions := sessions, audit := audit, history := state.history ++ [record] }

end SessionSystem

end TacacsWeb.Model
