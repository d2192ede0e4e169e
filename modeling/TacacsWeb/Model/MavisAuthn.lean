import TacacsWeb.Library.Text
import TacacsWeb.Model.Schema

/-!
# Password verification for MAVIS

`app.auth.ldap_config`, `app.auth.ldap_bind` and `app.auth.mavis_authn`. The directory
server is a parameter that may accept a bind, refuse it with any description, or raise at
any point of the exchange. Every function returns the binds it attempted next to its
result, so that a verdict can be tied to the bind behind it.
-/

namespace TacacsWeb.Model

open TacacsWeb.Library TacacsWeb.Library.Text

/-- The verdicts of a MAVIS request. -/
inductive AuthResult where
  /-- Accepted. -/
  | ack
  /-- Rejected. -/
  | nak
  /-- The user is not known. -/
  | nfd
  /-- No decision could be made. -/
  | err
deriving DecidableEq

/-- The verdict as it is written on the wire. -/
def AuthResult.code : AuthResult → String
  | ack => "ACK"
  | nak => "NAK"
  | nfd => "NFD"
  | err => "ERR"

/-- `LDAPEndpoint`. -/
structure LdapEndpoint where
  /-- The server URL. -/
  url : String
  /-- Whether the connection is encrypted from the start. -/
  useTls : Bool
  /-- Timeout in seconds. -/
  receiveTimeout : Nat
deriving DecidableEq

/-- `resolve_ldap_endpoint`: the endpoint of the `ldap.url` setting. -/
def resolveLdapEndpoint (fold : CaseFolding) (settings : Dict String String) :
    Option LdapEndpoint :=
  match settings.get? "ldap.url" with
  | none => none
  | some value =>
    if value = "" then none
    else
      let url := strip value
      some ⟨url, startsWith "ldaps://" (fold.python url), 10⟩

/-- An exception raised while talking to the directory server. -/
inductive LdapFault where
  /-- An `LDAPException`. -/
  | ldapException
  /-- Any other exception. -/
  | other
deriving DecidableEq

/-- What a bind comes back with. -/
inductive BindReply where
  /-- The credentials are accepted. -/
  | accepted
  /-- The bind fails with this result description. -/
  | refused (description : String)
  /-- The client library raises. -/
  | raised (fault : LdapFault)
deriving DecidableEq

/-- The behaviour of the directory server and of the client library in front of it. -/
structure LdapServer where
  /-- `Server(...)` may raise. -/
  construct : LdapEndpoint → Option LdapFault
  /-- Opening the connection for a DN and a password may raise. -/
  connect : LdapEndpoint → String → String → Option LdapFault
  /-- The bind for a DN and a password. -/
  bind : LdapEndpoint → String → String → BindReply
  /-- Leaving the connection may raise. -/
  close : LdapEndpoint → String → String → Option LdapFault

/-- One bind that reached the server. -/
structure BindAttempt where
  /-- The server that was asked. -/
  endpoint : LdapEndpoint
  /-- The DN that was bound. -/
  bindDn : String
  /-- The password that was sent. -/
  password : String
  /-- What came back. -/
  reply : BindReply
deriving DecidableEq

/-- The exceptions that leave `verify_ldap_password`. -/
inductive VerifyError where
  /-- `LDAPBindError`: no decision could be made. -/
  | ldapBindError
  /-- An exception that nothing catches on the way to the framework. -/
  | uncaught
deriving DecidableEq

/-- `except LDAPException` around the connection. -/
def LdapFault.toVerifyError : LdapFault → VerifyError
  | ldapException => .ldapBindError
  | other => .uncaught

/-- A result with the binds attempted on the way to it. -/
abbrev WithBinds (Value : Type) := Value × List BindAttempt

/-- The decision on a bind reply, and the exit of the connection block. -/
def decideBind (close : Option LdapFault) : BindReply → Except VerifyError Bool
  | .raised fault => .error fault.toVerifyError
  | .accepted =>
    match close with
    | none => .ok true
    | some fault => .error fault.toVerifyError
  | .refused description =>
    if description ∈ ["invalidCredentials", "invalidDNSyntax"] then
      match close with
      | none => .ok false
      | some fault => .error fault.toVerifyError
    else .error .ldapBindError

/-- `verify_ldap_password`. -/
def verifyLdapPassword (server : LdapServer) (endpoint : LdapEndpoint) (bindDn password : String) :
    WithBinds (Except VerifyError Bool) :=
  if password = "" then (.ok false, [])
  else match server.construct endpoint with
    -- The server object is built outside the `try`, so its errors are not wrapped.
    | some _ => (.error .uncaught, [])
    | none =>
      match server.connect endpoint bindDn password with
      | some fault => (.error fault.toVerifyError, [])
      | none =>
        let reply := server.bind endpoint bindDn password
        (decideBind (server.close endpoint bindDn password) reply,
          [⟨endpoint, bindDn, password, reply⟩])

/-- `AuthOutcome`. -/
structure AuthOutcome where
  /-- The verdict. -/
  result : AuthResult
  /-- Why, when the verdict is not an acceptance. -/
  reason : Option String
deriving DecidableEq

/-- `evaluate` with the verifier it resolves at call time. An error is an exception that
`evaluate` does not catch. -/
def evaluate (user : Option User) (endpoint : Option LdapEndpoint) (password : String)
    (verifier : LdapEndpoint → String → String → WithBinds (Except VerifyError Bool)) :
    WithBinds (Except Unit AuthOutcome) :=
  match user with
  | none => (.ok ⟨.nfd, some "unknown_user"⟩, [])
  | some user =>
    if !user.enabled then (.ok ⟨.nak, some "user_disabled"⟩, [])
    else match endpoint with
      | none => (.ok ⟨.err, some "ldap_not_configured"⟩, [])
      | some endpoint =>
        if user.distinguishedName = "" then (.ok ⟨.err, some "user_has_no_dn"⟩, [])
        else match verifier endpoint user.distinguishedName password with
          | (.error .ldapBindError, binds) => (.ok ⟨.err, some "ldap_unreachable"⟩, binds)
          | (.error .uncaught, binds) => (.error (), binds)
          | (.ok true, binds) => (.ok ⟨.ack, none⟩, binds)
          | (.ok false, binds) => (.ok ⟨.nak, some "wrong_password"⟩, binds)

/-- A bind of this DN and password that the server accepted. -/
def AcceptedBind (bindDn password : String) (binds : List BindAttempt) : Prop :=
  ∃ attempt ∈ binds, attempt.bindDn = bindDn ∧ attempt.password = password ∧
    attempt.reply = .accepted

/-- Only an accepted bind verifies a password, and never an empty one. -/
theorem verifyLdapPassword_true {server : LdapServer} {endpoint : LdapEndpoint}
    {bindDn password : String} {binds : List BindAttempt}
    (verified : verifyLdapPassword server endpoint bindDn password = (.ok true, binds)) :
    password ≠ "" ∧ AcceptedBind bindDn password binds := by
  unfold verifyLdapPassword at verified
  by_cases empty : password = ""
  · simp [empty] at verified
  rw [if_neg empty] at verified
  refine ⟨empty, ?_⟩
  cases built : server.construct endpoint with
  | some fault => simp [built] at verified
  | none =>
    cases opened : server.connect endpoint bindDn password with
    | some fault => simp [built, opened] at verified
    | none =>
      simp only [built, opened, Prod.mk.injEq] at verified
      obtain ⟨decided, rfl⟩ := verified
      refine ⟨_, List.mem_singleton_self _, rfl, rfl, ?_⟩
      cases reply : server.bind endpoint bindDn password with
      | accepted => rfl
      | raised fault => simp [reply, decideBind] at decided
      | refused description =>
        simp only [reply, decideBind] at decided
        split at decided
        · split at decided <;> cases decided
        · cases decided

/-- An acceptance needs an enabled user with a DN, an endpoint, and an accepted bind of that
DN with that password. -/
theorem evaluate_ack {user : Option User} {endpoint : Option LdapEndpoint} {password : String}
    {server : LdapServer} {outcome : AuthOutcome} {binds : List BindAttempt}
    (evaluated : evaluate user endpoint password (verifyLdapPassword server) = (.ok outcome, binds))
    (accepted : outcome.result = .ack) :
    ∃ row, user = some row ∧ row.enabled = true ∧ endpoint.isSome = true ∧
      row.distinguishedName ≠ "" ∧ password ≠ "" ∧
      AcceptedBind row.distinguishedName password binds := by
  unfold evaluate at evaluated
  split at evaluated
  · cases evaluated
    cases accepted
  · rename_i row
    split at evaluated
    · cases evaluated
      cases accepted
    · rename_i enabled
      split at evaluated
      · cases evaluated
        cases accepted
      · rename_i endpoint
        split at evaluated
        · cases evaluated
          cases accepted
        · rename_i named
          split at evaluated
          · cases evaluated
            cases accepted
          · cases evaluated
          · rename_i tried verified
            cases evaluated
            obtain ⟨nonempty, bound⟩ := verifyLdapPassword_true verified
            exact ⟨row, rfl, by simpa using enabled, rfl, named, nonempty, bound⟩
          · cases evaluated
            cases accepted

end TacacsWeb.Model
