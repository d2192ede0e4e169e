import TacacsWeb.Library.Result
import TacacsWeb.Model.Browser
import TacacsWeb.Verif.LoginAudit

/-!
# The session in the browser

The stored session slides with every request, while the cookie keeps the lifetime that the
login gave it. A browser that is used often enough stays logged in for eight hours after the
login and no longer.
-/

namespace TacacsWeb.Verif

open TacacsWeb.Library TacacsWeb.Model

/-- A commit that goes through stores its session. -/
theorem commitLogin_ok {staged after : LoginTables} {session : WebSession} {row : AuditLog}
    (committed : commitLogin staged (some session) row = .ok after) :
    after.sessions = staged.sessions ++ [session] := by
  rw [commitLogin] at committed
  split at committed
  · cases committed
    rfl
  · cases committed

/-- A local login that goes through creates a session and sets its cookie. -/
theorem loginLocal_ok {verify : String → String → Bool} {sessionCookieSecure : Bool}
    {tables after : LoginTables} {now : Nat} {token : SessionToken} {payload : LoginRequest}
    {request : ClientRequest} {response : LoginResponse} {cookie : SetCookie}
    (answered : loginLocal verify sessionCookieSecure tables now token payload request =
      (after, .ok (response, cookie))) :
    (∃ username role authMethod actorId, after.sessions = tables.sessions ++
        [createSession now token username role authMethod actorId request.clientIp]) ∧
      cookie = sessionCookie sessionCookieSecure token.value := by
  have refused : ∀ accepted,
      loginLocal.refuse tables payload request accepted ≠ (after, .ok (response, cookie)) := by
    intro accepted answered
    unfold loginLocal.refuse at answered
    split at answered <;> cases answered
  unfold loginLocal at answered
  split at answered
  · cases answered
  · dsimp only at answered
    split at answered
    · split at answered
      · split at answered
        · cases answered
        · rename_i committed
          cases answered
          have stored := commitLogin_ok committed
          exact ⟨⟨_, _, _, _, stored⟩, rfl⟩
      · exact absurd answered (refused _)
    · exact absurd answered (refused _)

/-- A SAML login adds one session and answers with its token as a cookie. -/
theorem samlAcs_ok {env : SamlEnvironment} {tables after : LoginTables} {now : Nat}
    {token : SessionToken} {request : AcsRequest} {url : String} {cookie : SetCookie}
    (answered : samlAcs env tables now token request = (after, .ok (url, cookie))) :
    (∃ username role authMethod actorId, after.sessions = tables.sessions ++
        [createSession now token username role authMethod actorId request.clientIp]) ∧
      cookie = sessionCookie env.sessionCookieSecure token.value := by
  have refused : ∀ row answer,
      samlAcs.refuse tables row answer ≠ (after, .ok (url, cookie)) := by
    intro row answer answered
    unfold samlAcs.refuse at answered
    split at answered <;> cases answered
  unfold samlAcs at answered
  split at answered
  · cases answered
  · split at answered
    · cases answered
    · split at answered
      · exact absurd answered (refused _ _)
      · unfold samlAcs.enrol at answered
        split at answered
        · cases answered
        · exact absurd answered (refused _ _)
        · dsimp only at answered
          split at answered
          · exact absurd answered (refused _ _)
          · split at answered
            · cases answered
            · rename_i committed
              cases answered
              have stored := commitLogin_ok committed
              exact ⟨⟨_, _, _, _, stored⟩, rfl⟩

/-- A login that goes through on either route stores a session that is found under its token, and
the cookie carries the token for eight hours. -/
theorem loggedIn_stored {verify : String → String → Bool} {env : SamlEnvironment}
    {tables after : LoginTables} {now : Nat} {token : SessionToken} {cookie : SetCookie}
    (loggedIn : LoggedIn verify env tables now token after cookie)
    (unused : getWebSession tables.sessions token.value = none) :
    (∃ row, getWebSession after.sessions token.value = some row ∧ WellTimed row ∧
      leaseOf row = ⟨now, now⟩) ∧
      BrowserCookie.receive now cookie = ⟨token.value, now + sessionSlidingLifetime⟩ := by
  have both : (∃ username role authMethod actorId clientIp, after.sessions = tables.sessions ++
      [createSession now token username role authMethod actorId clientIp]) ∧
      cookie = sessionCookie env.sessionCookieSecure token.value := by
    cases loggedIn with
    | localAdmin answered =>
      obtain ⟨⟨username, role, authMethod, actorId, stored⟩, set⟩ := loginLocal_ok answered
      exact ⟨⟨username, role, authMethod, actorId, _, stored⟩, set⟩
    | saml answered =>
      obtain ⟨⟨username, role, authMethod, actorId, stored⟩, set⟩ := samlAcs_ok answered
      exact ⟨⟨username, role, authMethod, actorId, _, stored⟩, set⟩
  obtain ⟨⟨username, role, authMethod, actorId, clientIp, stored⟩, rfl⟩ := both
  refine ⟨⟨createSession now token username role authMethod actorId clientIp, ?_,
    createSession_wellTimed now token username role authMethod actorId clientIp, rfl⟩, rfl⟩
  rw [stored, getWebSession_append, unused]
  simp [createSession]

/-- A browser that uses a stored session with gaps below eight hours, before its hard deadline,
keeps it exactly as long as it holds the cookie. -/
theorem keepsSession_iff {sessions : List WebSession} {cookie : BrowserCookie} {row : WebSession}
    {uses : List (Nat × ClientRequest)} (filled : cookie.value ≠ "")
    (found : getWebSession sessions cookie.value = some row) (timed : WellTimed row)
    (gaps : Lease.Gaps sessionSlidingLifetime row.lastSeenAt (uses.map Prod.fst))
    (capped : ∀ use ∈ uses, use.1 < row.createdAt + sessionHardLifetime) :
    KeepsSession sessions cookie uses ↔ ∀ use ∈ uses, cookie.Held use.1 := by
  induction uses generalizing sessions row with
  | nil => exact ⟨fun _ _ listed => absurd listed List.not_mem_nil, fun _ => trivial⟩
  | cons use later ih =>
    obtain ⟨now, request⟩ := use
    rw [List.forall_mem_cons, KeepsSession]
    refine and_congr_right fun held => ?_
    have live : (leaseOf row).Live sessionSlidingLifetime sessionHardLifetime now :=
      Lease.live_iff.mpr ⟨gaps.2.1, capped (now, request) List.mem_cons_self⟩
    have early := (live_iff_deadlines timed).mp live
    have sent : cookie.sent now = some cookie.value := if_pos held
    have rowNamed : row.token = cookie.value := token_of_getWebSession found
    have named : (slid now row).token = cookie.value := rowNamed
    have foundSlid : getWebSession sessions (slid now row).token = some row := by
      rw [named]
      exact found
    rcases requireSession_cases sessions now (cookie.sent now) request with
      ⟨token, other, ctx, same, _, foundToo, _, checked, _⟩ |
      ⟨error, after, _, refused, checked⟩
    · obtain rfl := Option.some.inj (sent.symm.trans same)
      obtain rfl := Option.some.inj (found.symm.trans foundToo)
      have stored : getWebSession (replaceRow WebSession.token (slid now row) sessions)
          cookie.value = some (slid now row) := by
        rw [getWebSession_replaceRow foundSlid, if_pos named.symm]
      rw [checked]
      refine (and_iff_right ⟨ctx, rfl⟩).trans ?_
      exact ih stored (slid_wellTimed timed) gaps.2.2 fun use listed =>
        capped use (List.mem_cons_of_mem _ listed)
    · -- A held cookie of a live session is not rejected.
      rw [sent] at refused
      cases refused with
      | noSession missing =>
        rcases missing with absent | blank
        · cases absent
        · exact absurd (Option.some.inj blank) filled
      | unknown same missing =>
        obtain rfl := Option.some.inj same
        cases found.symm.trans missing
      | expired same foundToo late =>
        obtain rfl := Option.some.inj same
        obtain rfl := Option.some.inj (found.symm.trans foundToo)
        exact absurd late early

/-- After a login on either route, a browser whose requests are less than eight hours apart and
less than twenty-four after the login holds the cookie and is accepted at all of them if and
only if all of them come within eight hours of the login. -/
theorem session_slides_for_browser_iff {verify : String → String → Bool} {env : SamlEnvironment}
    {tables after : LoginTables} {now : Nat} {token : SessionToken} {cookie : SetCookie}
    {uses : List (Nat × ClientRequest)}
    (loggedIn : LoggedIn verify env tables now token after cookie)
    (unused : getWebSession tables.sessions token.value = none)
    (gaps : Lease.Gaps sessionSlidingLifetime now (uses.map Prod.fst))
    (capped : ∀ use ∈ uses, use.1 < now + sessionHardLifetime) :
    KeepsSession after.sessions (.receive now cookie) uses ↔
      ∀ use ∈ uses, use.1 < now + sessionSlidingLifetime := by
  obtain ⟨⟨row, found, timed, leased⟩, received⟩ := loggedIn_stored loggedIn unused
  have created : row.createdAt = now := congrArg Lease.granted leased
  have seen : row.lastSeenAt = now := congrArg Lease.seen leased
  have filled : token.value ≠ "" := by
    intro blank
    have sized := token.sized
    rw [blank] at sized
    cases sized
  rw [received]
  exact keepsSession_iff filled found timed (seen.symm ▸ gaps) (created.symm ▸ capped)

/-- The tables after the sample response was posted. -/
def afterSamplePost : LoginTables :=
  (samlAcs sampleSamlEnvironment noLogins 0 sampleToken samplePost).1

/-- The sample response logs in. -/
theorem samplePost_loggedIn : LoggedIn (fun _ _ => false) sampleSamlEnvironment noLogins 0
    sampleToken afterSamplePost (sessionCookie true sampleToken.value) := by
  have answered : (samlAcs sampleSamlEnvironment noLogins 0 sampleToken samplePost).2.toOption =
      some ("https://tacacs.example/", sessionCookie true sampleToken.value) := by
    decide +kernel
  exact .saml (Prod.ext rfl (toOption_eq_some.mp answered))

/-- The session cookie is kept over one request, seven hours after the login. -/
theorem session_slides_for_browser_once :
    KeepsSession afterSamplePost.sessions (.receive 0 (sessionCookie true sampleToken.value))
      [(hours 7, samplePost.toClientRequest)] := by
  have slides := @session_slides_for_browser_iff (fun _ _ => false) sampleSamlEnvironment noLogins
    afterSamplePost 0 sampleToken (sessionCookie true sampleToken.value)
    [(hours 7, samplePost.toClientRequest)] samplePost_loggedIn rfl ⟨by decide, by decide, trivial⟩
    (by decide)
  exact slides.mpr (by decide)

/-- A second request, fourteen hours after the login and seven after the first, comes without the
cookie. -/
theorem session_lost_by_browser :
    ¬∀ uses : List (Nat × ClientRequest),
      Lease.Gaps sessionSlidingLifetime 0 (uses.map Prod.fst) →
      (∀ use ∈ uses, use.1 < 0 + sessionHardLifetime) →
        KeepsSession afterSamplePost.sessions (.receive 0 (sessionCookie true sampleToken.value))
          uses := by
  intro claimed
  have kept := claimed
    [(hours 7, samplePost.toClientRequest), (hours 14, samplePost.toClientRequest)]
    ⟨by decide, by decide, by decide, by decide, trivial⟩ (by decide)
  have held : hours 14 < 0 + hours 8 := kept.2.2.1
  exact absurd held (by decide)

end TacacsWeb.Verif
