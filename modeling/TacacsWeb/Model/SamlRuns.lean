import TacacsWeb.Library.Run
import TacacsWeb.Model.SamlRoutes

/-!
# Runs of SAML logins

Requests to the two SAML routes one after the other, by any clients, each at the time of its
handling. Next to the tables the state records which assertion every new session came from,
which the handlers themselves never look at.
-/

namespace TacacsWeb.Model

open TacacsWeb.Library

/-- A request to one of the two routes. -/
inductive SamlEvent where
  /-- `GET /saml/login`. -/
  | login
  /-- `POST /saml/acs`, with the token that its session would get. -/
  | acs (token : SessionToken) (request : AcsRequest)

/-- The tables and the sessions created so far. -/
structure SamlSystem where
  /-- The tables that the login handlers write. -/
  tables : LoginTables
  /-- Every session that a posted response led to, with the id of its assertion. -/
  created : List (Option String × WebSession)

/-- The id of the assertion in a posted form, as python3-saml reads it at that time. -/
def assertionOf (env : SamlEnvironment) (now : Nat) (request : AcsRequest) : Option String :=
  match loadSamlConfig env.settings with
  | .error _ => none
  | .ok cfg => (env.toolkit.processResponse cfg request.postData now).bind SamlResult.assertionId

/-- One request. `GET /saml/login` answers with a redirect and writes nothing. -/
def SamlSystem.step (env : SamlEnvironment) : Step SamlSystem (Nat × SamlEvent)
  | state, (_, .login) => some state
  | state, (now, .acs token request) =>
    let tables := (samlAcs env state.tables now token request).1
    let new := tables.sessions.drop state.tables.sessions.length
    some {
      tables := tables
      created := state.created ++ new.map fun session => (assertionOf env now request, session) }

end TacacsWeb.Model
