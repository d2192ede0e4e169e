import TacacsWeb.Model.MavisExchange
import TacacsWeb.Verif.PolicyAgreement

/-!
# Authentication fails closed

An AUTH packet is only answered with an acceptance when the backend's own reply arrived,
and that reply is only an acceptance when a bind with the stored DN and the given password
was accepted. A profile that comes with it is the one of the rule that decides for this
user on the device of the NAS address.
-/

namespace TacacsWeb.Verif

open TacacsWeb.Library TacacsWeb.Library.IpAddress TacacsWeb.Model

/-- The row that an acceptance of a name and a password rests on. -/
structure Authenticated (site : MavisBackend) (binds : List BindAttempt)
    (username password : String) (user : User) : Prop where
  /-- The row is in the table. -/
  listed : user ∈ site.db.identity.users
  /-- Its login name is the one of the packet, up to case. -/
  named : site.fold.sql user.samAccountName = site.fold.python username
  /-- The account is enabled. -/
  enabled : user.enabled = true
  /-- The row has a DN. -/
  bindDn : user.distinguishedName ≠ ""
  /-- A directory server is configured. -/
  configured : ∃ url, site.db.systemSettings.get? "ldap.url" = some url ∧ url ≠ ""
  /-- The password is not empty. -/
  nonempty : password ≠ ""
  /-- A bind of that DN with that password was accepted. -/
  bound : AcceptedBind user.distinguishedName password binds

/-- The profile is the rendering of the rule that wins for the user on the group of a device
with the longest match of the NAS address. -/
def GrantedProfile (site : MavisBackend) (nasIp : PyString) (user : User) (profile : PyString) :
    Prop :=
  ∃ text addr device winner, nasIp = .text text ∧ ipAddress text.toList = some addr ∧
    LongestMatch addr site.db.devices device ∧
    Wins (site.db.identity.load user) device.deviceGroupId (allRules site.db) winner ∧
    profile = .text (renderTacprofile winner.privilegeProfile)

/-! ## The replies of the backend -/

/-- The verdict in the JSON of a response is the response's own. -/
theorem replyVerdict_authResponse (response : AuthResponse) :
    replyVerdict (.ok response.toJson) = response.result := by
  cases response with
  | mk result reason => cases result <;> rfl

/-- The verdict in the JSON of a response is the response's own. -/
theorem replyVerdict_infoResponse (response : InfoResponse) :
    replyVerdict (.ok response.toJson) = response.result := by
  cases response with
  | mk result reason profile => cases result <;> rfl

/-- The profile in the JSON of a response is the response's own. -/
theorem replyProfile_infoResponse (response : InfoResponse) :
    replyProfile (.ok response.toJson) = response.profile.map .text := by
  cases response with
  | mk result reason profile => cases result <;> cases profile <;> rfl

/-- An accepted body validates to the values it carries. -/
theorem validate_authRequest {username password nasIp : PyString} {req : AuthRequest}
    (valid : AuthRequest.validate (authRequest username password nasIp).payload = some req) :
    username = .text req.username ∧ password = .text req.password := by
  have usernameSent : (authRequest username password nasIp).payload.get? "username" =
      some username := by
    unfold authRequest
    split <;> simp
  have passwordSent : (authRequest username password nasIp).payload.get? "password" =
      some password := by
    unfold authRequest
    split <;> simp
  unfold AuthRequest.validate at valid
  rw [usernameSent, passwordSent] at valid
  split at valid
  · rename_i given other _ first second _
    cases first
    cases second
    unfold AuthRequest.make at valid
    split at valid
    · cases valid
      exact ⟨rfl, rfl⟩
    · cases valid
  · rename_i given other ip _ first second _
    cases first
    cases second
    unfold AuthRequest.make at valid
    split at valid
    · cases valid
      exact ⟨rfl, rfl⟩
    · cases valid
  · cases valid

/-- An accepted body validates to the values it carries. -/
theorem validate_infoRequest {username nasIp : PyString} {req : InfoRequest}
    (valid : InfoRequest.validate (infoRequest username nasIp).payload = some req) :
    username = .text req.username ∧ nasIp = .text req.nasIp := by
  have usernameSent : (infoRequest username nasIp).payload.get? "username" = some username := by
    simp [infoRequest]
  have nasIpSent : (infoRequest username nasIp).payload.get? "nas_ip" = some nasIp := by
    simp [infoRequest]
  unfold InfoRequest.validate at valid
  rw [usernameSent, nasIpSent] at valid
  split at valid
  · rename_i given ip first second
    cases first
    cases second
    split at valid
    · cases valid
      exact ⟨rfl, rfl⟩
    · cases valid
  · cases valid

/-- An acceptance from `/auth` names the row it rests on. -/
theorem serve_auth_ack {site : MavisBackend} {username password nasIp : PyString}
    (accepted : replyVerdict (site.serve (authRequest username password nasIp)).1 = .ack) :
    ∃ name secret user, username = .text name ∧ password = .text secret ∧
      findByUsername site.fold site.db.identity.users name = .ok (some user) ∧
      Authenticated site (site.serve (authRequest username password nasIp)).2 name secret user := by
  have served : site.serve (authRequest username password nasIp) =
      site.serveAuth (authRequest username password nasIp).payload := by
    simp [MavisBackend.serve, authRequest]
  rw [served] at accepted ⊢
  unfold MavisBackend.serveAuth at accepted ⊢
  split at accepted
  · cases accepted
  · rename_i req valid
    obtain ⟨nameSent, secretSent⟩ := validate_authRequest valid
    split at accepted
    · cases accepted
    · rename_i response audit binds handled
      rw [replyVerdict_authResponse] at accepted
      obtain ⟨user, found, enabled, configured, bindDn, nonempty, bound⟩ :=
        mavisAuth_ack handled accepted
      obtain ⟨listed, named⟩ := findByUsername_some found
      exact ⟨req.username, req.password, user, nameSent, secretSent, found, listed, named, enabled,
        bindDn, resolveLdapEndpoint_isSome configured, nonempty, bound⟩

/-- An acceptance from `/info` carries the profile of the deciding rule. -/
theorem serve_info_ack {site : MavisBackend} {name : String} {nasIp : PyString} {user : User}
    (found : findByUsername site.fold site.db.identity.users name = .ok (some user))
    (accepted : replyVerdict (site.serve (infoRequest (.text name) nasIp)).1 = .ack)
    {profile : PyString}
    (attached : replyProfile (site.serve (infoRequest (.text name) nasIp)).1 = some profile) :
    GrantedProfile site nasIp user profile := by
  have served : (site.serve (infoRequest (.text name) nasIp)).1 =
      site.serveInfo (infoRequest (.text name) nasIp).payload := by
    simp [MavisBackend.serve, infoRequest]
  rw [served] at accepted attached
  unfold MavisBackend.serveInfo at accepted attached
  split at accepted
  · cases accepted
  · rename_i req valid
    obtain ⟨nameSent, ipSent⟩ := validate_infoRequest valid
    simp only [valid] at attached
    split at accepted
    · cases accepted
    · rename_i response audit handled
      simp only [handled] at attached
      rw [replyVerdict_infoResponse] at accepted
      rw [replyProfile_infoResponse] at attached
      obtain ⟨row, device, winner, rowFound, resolved, wins, rendered⟩ :=
        mavisInfo_ack handled accepted
      cases nameSent
      rw [found] at rowFound
      cases rowFound
      obtain ⟨addr, parsed, present, length, matched, longest⟩ :=
        resolveDeviceForIp_longest resolved
      refine ⟨req.nasIp, addr, device, winner, ipSent, parsed, ?_, ?_, ?_⟩
      · exact ⟨(site.deviceOrder.perm _).mem_iff.mp present, length, matched, fun other inTable =>
          longest other ((site.deviceOrder.perm _).mem_iff.mpr inTable)⟩
      · refine (wins_congr fun rule applies => ?_).mp (evaluateForUser_wins wins)
        rw [mem_selectAuthorizations]
        exact ⟨And.left, fun listed => ⟨listed, by simpa using applies.1⟩⟩
      · rw [rendered] at attached
        exact (Option.some.inj attached).symm

/-! ## The exchange -/

/-- An acceptance reaches the child only as the backend's own reply. -/
theorem backend_ack {exchange : MavisExchange} {call : Nat} {request : HttpRequest}
    (accepted : replyVerdict (exchange.backend call request) = .ack) :
    exchange.backend call request = (exchange.serve request).1 ∧
      exchange.bindsOf call request = (exchange.serve request).2 := by
  unfold MavisExchange.backend MavisExchange.bindsOf at *
  cases delivered : exchange.delivery call with
  | arrives => exact ⟨rfl, rfl⟩
  | fails handled reply refused =>
    simp only [delivered] at accepted
    exact absurd accepted refused

/-- An accepted bind of one call is one of the exchange. -/
theorem acceptedBind_of_head {exchange : MavisExchange} {call : Nat} {request : HttpRequest}
    {requests : List HttpRequest} {bindDn password : String}
    (bound : AcceptedBind bindDn password (exchange.bindsOf call request)) :
    AcceptedBind bindDn password (exchange.binds call (request :: requests)) := by
  obtain ⟨attempt, tried, rest⟩ := bound
  exact ⟨attempt, List.mem_append_left _ tried, rest⟩

/-- The verdict of an AUTH packet is the one of its first reply, which the first of its calls
brought; a new profile comes with an accepted lookup. -/
theorem answer_auth {backend : Backend} {call : Nat} {req response : Packet}
    {calls : List HttpRequest} (auth : req.getD avTactype (.text "") = .text "AUTH")
    (answered : answer backend call req = (.ok response, calls)) :
    response.get? avResult = some (.text (replyVerdict (authReply backend call req)).code) ∧
      (∃ later, calls = authRequest (req.getD avUser (.text "")) (req.getD avPassword (.text ""))
        (req.getD avServerip (.text "")) :: later) ∧
      ∀ profile, response.get? avTacprofile = some profile →
        req.get? avTacprofile ≠ some profile →
          replyVerdict (infoReply backend (call + 1) req) = .ack ∧
            replyProfile (infoReply backend (call + 1) req) = some profile := by
  have branch : answer backend call req = handleAuth backend call req := if_pos auth
  rw [branch] at answered
  have first : Answerable (authReply backend call req) :=
    handleAuth_ok (congrArg Prod.fst answered)
  have kept : ∀ value : PyString,
      (req.set avResult value).get? avTacprofile = req.get? avTacprofile :=
    fun value => Dict.get?_set_of_ne _ _ (by decide)
  by_cases lookup : LooksUp backend call req
  · have second := handleAuth_lookup_ok lookup (congrArg Prod.fst answered)
    rw [handleAuth_lookup first lookup second] at answered
    cases answered
    refine ⟨by rw [attachProfile_result, Dict.get?_set_self], ⟨_, rfl⟩, ?_⟩
    intro profile present fresh
    unfold attachProfile at present
    cases attached : replyProfile (infoReply backend (call + 1) req) with
    | none =>
      simp only [attached, kept] at present
      exact absurd present fresh
    | some value =>
      simp only [attached] at present
      split at present
      · rename_i accepted
        rw [Dict.get?_set_self] at present
        exact ⟨accepted, present⟩
      · rw [kept] at present
        exact absurd present fresh
  · rw [handleAuth_verdict first lookup] at answered
    cases answered
    refine ⟨Dict.get?_set_self _ _ _, ⟨_, rfl⟩, fun profile present fresh => ?_⟩
    rw [kept] at present
    exact absurd present fresh

/-- A verdict is written as an acceptance only when it is one. -/
theorem code_ack {verdict : AuthResult} (written : verdict.code = "ACK") : verdict = .ack := by
  cases verdict with
  | ack => rfl
  | nak => exact absurd written (by decide)
  | nfd => exact absurd written (by decide)
  | err => exact absurd written (by decide)

/-- If the packet that the child writes for an AUTH packet carries an acceptance, the table
holds an enabled row of that name whose DN was bound with the packet's password in this
exchange; and a profile that the request did not carry is the one of the deciding rule. -/
theorem answer_fail_closed (exchange : MavisExchange) (call : Nat) {req response : Packet}
    {calls : List HttpRequest} (auth : req.getD avTactype (.text "") = .text "AUTH")
    (answered : answer exchange.backend call req = (.ok response, calls))
    (accepted : response.get? avResult = some (.text "ACK")) :
    ∃ username password user, req.getD avUser (.text "") = .text username ∧
      req.getD avPassword (.text "") = .text password ∧
      Authenticated exchange.toMavisBackend (exchange.binds call calls) username password user ∧
      ∀ profile, response.get? avTacprofile = some profile →
        req.get? avTacprofile ≠ some profile →
          GrantedProfile exchange.toMavisBackend (req.getD avServerip (.text "")) user
            profile := by
  obtain ⟨verdict, ⟨later, rfl⟩, looked⟩ := answer_auth auth answered
  rw [accepted] at verdict
  have ack := code_ack (PyString.text.inj (Option.some.inj verdict)).symm
  obtain ⟨own, bindsOwn⟩ := backend_ack ack
  rw [authReply, own] at ack
  obtain ⟨username, password, user, named, given, found, row⟩ := serve_auth_ack ack
  refine ⟨username, password, user, named, given, ⟨row.listed, row.named, row.enabled, row.bindDn,
    row.configured, row.nonempty, acceptedBind_of_head (bindsOwn ▸ row.bound)⟩, ?_⟩
  intro profile present fresh
  obtain ⟨lookupAck, attached⟩ := looked profile present fresh
  have lookupOwn := (backend_ack lookupAck).1
  rw [infoReply, lookupOwn, named] at lookupAck
  rw [infoReply, lookupOwn, named] at attached
  exact serve_info_ack found lookupAck attached

/-- The sample database behind a directory server that accepts one password. -/
def sampleExchange : MavisExchange where
  fold := .ascii
  db := { sampleDatabase with systemSettings := Dict.empty.set "ldap.url" "ldaps://dc" }
  server :=
    { construct := fun _ => none
      connect := fun _ _ _ => none
      bind := fun _ _ password =>
        if password = "pw" then .accepted else .refused "invalidCredentials"
      close := fun _ _ _ => none }
  deviceOrder := .asStored _
  authorizationOrder := .asStored _
  delivery := fun _ => .arrives

/-- An AUTH packet of the sample user. -/
def samplePacket : Packet :=
  Dict.ofList [(avUser, .text "JAN"), (avPassword, .text "pw"), (avServerip, .text "10.0.0.9"),
    (avTactype, .text "AUTH")]

/-- The packet that the child writes for the sample user. -/
def sampleResponse : Packet :=
  (samplePacket.set avResult (.text "ACK")).set avTacprofile
    (.text (renderTacprofile readProfile))

/-- The calls that the child makes for the sample user. -/
def sampleCalls : List HttpRequest :=
  [authRequest (.text "JAN") (.text "pw") (.text "10.0.0.9"),
    infoRequest (.text "JAN") (.text "10.0.0.9")]

/-- The accepted sample exchange rests on the sample row and the rule for it. -/
theorem answer_fail_closed_sample :
    ∃ username password user, samplePacket.getD avUser (.text "") = .text username ∧
      samplePacket.getD avPassword (.text "") = .text password ∧
      Authenticated sampleExchange.toMavisBackend (sampleExchange.binds 0 sampleCalls) username
        password user ∧
      ∀ profile, sampleResponse.get? avTacprofile = some profile →
        samplePacket.get? avTacprofile ≠ some profile →
          GrantedProfile sampleExchange.toMavisBackend (samplePacket.getD avServerip (.text "")) user
            profile :=
  @answer_fail_closed sampleExchange 0 samplePacket sampleResponse sampleCalls (by decide)
    (by decide +kernel) (by decide)

end TacacsWeb.Verif
