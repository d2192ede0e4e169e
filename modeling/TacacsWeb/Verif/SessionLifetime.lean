import Mathlib.Data.List.Induction
import TacacsWeb.Library.Lease
import TacacsWeb.Model.SessionRuns

/-!
# The lifetime of a session

Every stored session is a lease of eight hours that a request renews, under a cap of
twenty-four hours. The lease of a token can be told from the history of its creation, its
accepted requests and what ended it, so the history alone decides whether a request is
accepted.
-/

namespace TacacsWeb.Verif

open TacacsWeb.Library TacacsWeb.Model

/-- The lease that a stored session stands for. -/
def leaseOf (row : WebSession) : Lease := ⟨row.createdAt, row.lastSeenAt⟩

/-- The stored deadlines are those of the lease. -/
structure WellTimed (row : WebSession) : Prop where
  /-- The hard deadline is the cap. -/
  hard : row.hardExpiresAt = row.createdAt + sessionHardLifetime
  /-- The sliding deadline is that of the lease. -/
  sliding : row.expiresAt = (leaseOf row).deadline sessionSlidingLifetime sessionHardLifetime

/-- The row after a request that slides it. -/
def slid (now : Nat) (row : WebSession) : WebSession :=
  { row with
    lastSeenAt := now
    expiresAt := min (now + sessionSlidingLifetime) row.hardExpiresAt }

/-- A new session has the deadlines of its lease. -/
theorem createSession_wellTimed (now : Nat) (token : SessionToken) (username role : String)
    (authMethod : LoginMethod) (actorId : Option Nat) (clientIp : Option String) :
    WellTimed (createSession now token username role authMethod actorId clientIp) := by
  refine ⟨rfl, ?_⟩
  have shorter : sessionSlidingLifetime ≤ sessionHardLifetime := by decide
  simp only [createSession, leaseOf, Lease.deadline]
  omega

/-- Sliding a row keeps its deadlines those of its lease. -/
theorem slid_wellTimed {now : Nat} {row : WebSession} (timed : WellTimed row) :
    WellTimed (slid now row) := by
  refine ⟨timed.hard, ?_⟩
  simp only [slid, leaseOf, Lease.deadline, timed.hard]

/-- The session check passes a row before both deadlines, which is while its lease is live. -/
theorem live_iff_deadlines {now : Nat} {row : WebSession} (timed : WellTimed row) :
    (leaseOf row).Live sessionSlidingLifetime sessionHardLifetime now ↔
      ¬ (now ≥ row.hardExpiresAt ∨ now ≥ row.expiresAt) := by
  have capped : (leaseOf row).deadline sessionSlidingLifetime sessionHardLifetime ≤
      row.createdAt + sessionHardLifetime := (leaseOf row).deadline_le_cap
  rw [timed.hard, timed.sliding, Lease.Live]
  omega

/-! ## The table -/

/-- A row that is read has the token. -/
theorem token_of_getWebSession {sessions : List WebSession} {token : String} {row : WebSession}
    (found : getWebSession sessions token = some row) : row.token = token := by
  rw [getWebSession] at found
  simpa only [decide_eq_true_eq] using List.find?_some found

/-- Reading a token after the row of one was deleted. -/
theorem getWebSession_delete (sessions : List WebSession) (token other : String) :
    getWebSession (deleteWebSession sessions token) other =
      if other = token then none else getWebSession sessions other :=
  find_deleteKey token

/-- Reading a token after a row was replaced by one of the same token. -/
theorem getWebSession_replaceRow {sessions : List WebSession} {row before : WebSession}
    (present : getWebSession sessions row.token = some before) (other : String) :
    getWebSession (replaceRow WebSession.token row sessions) other =
      if other = row.token then some row else getWebSession sessions other := by
  by_cases same : other = row.token
  · subst same
    rw [if_pos rfl]
    exact find_replaceRow_self
      ⟨before, List.mem_of_find?_eq_some present, token_of_getWebSession present⟩
  · rw [if_neg same]
    exact find_replaceRow_of_ne same

/-- Reading a token after a row was added. -/
theorem getWebSession_append (sessions : List WebSession) (row : WebSession) (other : String) :
    getWebSession (sessions ++ [row]) other =
      (getWebSession sessions other).or (if row.token = other then some row else none) := by
  simp only [getWebSession, List.find?_append]
  congr 1
  by_cases named : row.token = other <;> simp [named]

/-! ## The session check -/

/-- What a check that rejects leaves behind: the rows as they were, or less an expired one. -/
inductive Rejected (sessions : List WebSession) (now : Nat) (cookieToken : Option String) :
    List WebSession → Prop where
  /-- No cookie came with the request. -/
  | noSession (missing : cookieToken = none ∨ cookieToken = some "") :
    Rejected sessions now cookieToken sessions
  /-- The token has no row. -/
  | unknown {token : String} (sent : cookieToken = some token)
    (unknown : getWebSession sessions token = none) : Rejected sessions now cookieToken sessions
  /-- The row of the token has expired. -/
  | expired {token : String} {row : WebSession} (sent : cookieToken = some token)
    (found : getWebSession sessions token = some row)
    (late : now ≥ row.hardExpiresAt ∨ now ≥ row.expiresAt) :
    Rejected sessions now cookieToken (deleteWebSession sessions token)

/-- The session check passes a row before its deadlines and slides it, and answers 401 to
everything else. -/
theorem requireSession_cases (sessions : List WebSession) (now : Nat) (cookieToken : Option String)
    (request : ClientRequest) :
    (∃ token row ctx, cookieToken = some token ∧ token ≠ "" ∧
      getWebSession sessions token = some row ∧
      ¬ (now ≥ row.hardExpiresAt ∨ now ≥ row.expiresAt) ∧
      requireSession sessions now cookieToken request =
        (replaceRow WebSession.token (slid now row) sessions, .ok ctx) ∧ ctx.token = token) ∨
    ∃ error after, error.status = 401 ∧ Rejected sessions now cookieToken after ∧
      requireSession sessions now cookieToken request = (after, .error error) := by
  cases cookieToken with
  | none => exact .inr ⟨_, _, rfl, .noSession (.inl rfl), rfl⟩
  | some token =>
    by_cases empty : token = ""
    · subst empty
      exact .inr ⟨_, _, rfl, .noSession (.inr rfl), rfl⟩
    · simp only [requireSession, if_neg empty, loadActiveSession]
      cases found : getWebSession sessions token with
      | none => exact .inr ⟨_, _, rfl, .unknown rfl found, rfl⟩
      | some row =>
        by_cases late : now ≥ row.hardExpiresAt ∨ now ≥ row.expiresAt
        · refine .inr ⟨⟨401, some "session_expired"⟩, _, rfl, .expired rfl found late, ?_⟩
          simp only [if_pos late]
        · simp only [if_neg late]
          exact .inl ⟨token, row, _, rfl, empty, found, late, rfl, token_of_getWebSession found⟩

/-! ## The history -/

instance (token : String) (record : SessionRecord) : Decidable (record.Accepts token) :=
  inferInstanceAs (Decidable (_ ∧ _))

/-- The lease of a token after one more event. -/
def leaseNext (token : String) (lease : Option Lease) (record : SessionRecord) : Option Lease :=
  match record.event with
  | .create created .. => if created.value = token then some ⟨record.now, record.now⟩ else lease
  | .request cookieToken _ =>
    if cookieToken ≠ some token then lease
    else if record.status = 401 then none
    else lease.map fun lease => lease.touch record.now
  | .logout cookieToken _ =>
    if cookieToken ≠ some token then lease
    else if record.status = 401 ∨ record.status = 204 then none
    else lease.map fun lease => lease.touch record.now

/-- The lease of a token after these events. -/
def leaseAfter (token : String) (history : List SessionRecord) : Option Lease :=
  history.foldl (leaseNext token) none

/-- The lease of a token after these events and one more. -/
theorem leaseAfter_snoc (token : String) (history : List SessionRecord) (record : SessionRecord) :
    leaseAfter token (history ++ [record]) = leaseNext token (leaseAfter token history) record := by
  rw [leaseAfter, List.foldl_append]
  rfl

/-- The time of the last accepted request with a token among these events, or the given time. -/
def lastAccepted (token : String) (start : Nat) (history : List SessionRecord) : Nat :=
  history.foldl (fun last record => if record.Accepts token then record.now else last) start

/-- A creation grants the lease. -/
theorem leaseNext_creates {token : String} {record : SessionRecord} (lease : Option Lease)
    (creates : record.Creates token) :
    leaseNext token lease record = some ⟨record.now, record.now⟩ := by
  rw [SessionRecord.Creates] at creates
  rw [leaseNext]
  split at creates
  · rename_i created
    simp only [created, if_pos creates]
  · exact creates.elim

/-- A rejection or a logout ends it. -/
theorem leaseNext_ends {token : String} {record : SessionRecord} (lease : Option Lease)
    (ends : record.Ends token) : leaseNext token lease record = none := by
  obtain ⟨sent, ended⟩ := ends
  rw [leaseNext]
  cases shape : record.event with
  | create =>
    rw [shape] at sent
    cases sent
  | request cookieToken request =>
    rw [shape] at sent
    rcases ended with rejected | ⟨_, loggedOut, _⟩
    · simp only [show cookieToken = some token from sent, ne_eq, not_true_eq_false, if_false,
        if_pos rejected]
    · rw [shape] at loggedOut
      cases loggedOut
  | logout cookieToken request =>
    rw [shape] at sent
    have ended : record.status = 401 ∨ record.status = 204 := by
      rcases ended with rejected | ⟨_, _, done⟩
      · exact .inl rejected
      · exact .inr done
    simp only [show cookieToken = some token from sent, ne_eq, not_true_eq_false, if_false,
      if_pos ended]

/-- An accepted request that does not end the session renews it. -/
theorem leaseNext_accepts {token : String} {record : SessionRecord} (lease : Option Lease)
    (accepts : record.Accepts token) (stays : ¬record.Ends token) :
    leaseNext token lease record = lease.map fun lease => lease.touch record.now := by
  obtain ⟨sent, accepted⟩ := accepts
  rw [leaseNext]
  cases shape : record.event with
  | create =>
    rw [shape] at sent
    cases sent
  | request cookieToken request =>
    rw [shape] at sent
    simp only [show cookieToken = some token from sent, ne_eq, not_true_eq_false, if_false,
      if_neg accepted]
  | logout cookieToken request =>
    rw [shape] at sent
    obtain rfl : cookieToken = some token := sent
    have failed : ¬(record.status = 401 ∨ record.status = 204) := by
      rintro (rejected | done)
      · exact accepted rejected
      · exact stays ⟨by rw [shape]; rfl, .inr ⟨request, shape, done⟩⟩
    simp only [ne_eq, not_true_eq_false, if_false, if_neg failed]

/-- Every other event leaves it. -/
theorem leaseNext_other {token : String} {record : SessionRecord} (lease : Option Lease)
    (creates : ¬record.Creates token) (accepts : ¬record.Accepts token)
    (stays : ¬record.Ends token) : leaseNext token lease record = lease := by
  have unsent : record.event.cookieToken ≠ some token := by
    intro sent
    by_cases rejected : record.status = 401
    · exact stays ⟨sent, .inl rejected⟩
    · exact accepts ⟨sent, rejected⟩
  rw [SessionRecord.Creates] at creates
  rw [leaseNext]
  cases shape : record.event with
  | create created =>
    rw [shape] at creates
    simp only [if_neg creates]
  | request cookieToken request | logout cookieToken request =>
    rw [shape] at unsent
    simp only [if_pos (show cookieToken ≠ some token from unsent)]

/-- While a token is neither created again nor ended, its lease is renewed by what is accepted. -/
theorem foldl_leaseNext {token : String} {since : List SessionRecord} (lease : Lease)
    (created : ∀ record ∈ since, ¬record.Creates token)
    (stays : ∀ record ∈ since, ¬record.Ends token) :
    since.foldl (leaseNext token) (some lease) =
      some ⟨lease.granted, lastAccepted token lease.seen since⟩ := by
  induction since generalizing lease with
  | nil => rfl
  | cons record later ih =>
    have first := created record List.mem_cons_self
    have kept := stays record List.mem_cons_self
    have rest := fun lease => ih lease
      (fun other listed => created other (List.mem_cons_of_mem _ listed))
      fun other listed => stays other (List.mem_cons_of_mem _ listed)
    rw [List.foldl_cons, lastAccepted, List.foldl_cons]
    by_cases accepts : record.Accepts token
    · rw [leaseNext_accepts _ accepts kept, if_pos accepts]
      exact rest (lease.touch record.now)
    · rw [leaseNext_other _ first accepts kept, if_neg accepts]
      exact rest lease

/-- No token is created twice. -/
def CreatedOnce (history : List SessionRecord) : Prop :=
  history.Pairwise fun first second => ∀ token, first.Creates token → ¬second.Creates token

/-- A token has a lease when it was created and nothing has ended it since. -/
theorem leaseAfter_eq_some_iff {token : String} {history : List SessionRecord} {lease : Lease}
    (once : CreatedOnce history) :
    leaseAfter token history = some lease ↔
      ∃ before created since, history = before ++ created :: since ∧ created.Creates token ∧
        (∀ record ∈ since, ¬record.Ends token) ∧
        lease = ⟨created.now, lastAccepted token created.now since⟩ := by
  constructor
  · clear once
    induction history using List.reverseRecOn generalizing lease with
    | nil => exact fun held => nomatch held
    | append_singleton history record ih =>
      intro held
      rw [leaseAfter_snoc] at held
      by_cases creates : record.Creates token
      · rw [leaseNext_creates _ creates] at held
        exact ⟨history, record, [], rfl, creates, fun _ listed => absurd listed List.not_mem_nil,
          (Option.some.inj held).symm⟩
      · by_cases ends : record.Ends token
        · rw [leaseNext_ends _ ends] at held
          cases held
        · have stays : ∀ since : List SessionRecord, (∀ other ∈ since, ¬other.Ends token) →
              ∀ other ∈ since ++ [record], ¬other.Ends token := by
            intro since before other listed
            rcases List.mem_append.mp listed with earlier | last
            · exact before other earlier
            · exact List.mem_singleton.mp last ▸ ends
          have last : ∀ start since, lastAccepted token start (since ++ [record]) =
              if record.Accepts token then record.now else lastAccepted token start since := by
            intro start since
            rw [lastAccepted, List.foldl_append]
            rfl
          by_cases accepts : record.Accepts token
          · rw [leaseNext_accepts _ accepts ends] at held
            obtain ⟨earlier, renewed, rfl⟩ := Option.map_eq_some_iff.mp held
            obtain ⟨before, created, since, rfl, found, running, rfl⟩ := ih renewed
            refine ⟨before, created, since ++ [record], by simp, found, stays since running, ?_⟩
            rw [last, if_pos accepts]
            rfl
          · rw [leaseNext_other _ creates accepts ends] at held
            obtain ⟨before, created, since, rfl, found, running, rfl⟩ := ih held
            refine ⟨before, created, since ++ [record], by simp, found, stays since running, ?_⟩
            rw [last, if_neg accepts]
  · rintro ⟨before, created, since, rfl, creates, stays, rfl⟩
    have later : ∀ record ∈ since, ¬record.Creates token := by
      have after := (List.pairwise_append.mp once).2.1
      exact fun record listed => (List.pairwise_cons.mp after).1 record listed token creates
    rw [leaseAfter, List.foldl_append, List.foldl_cons, leaseNext_creates _ creates,
      foldl_leaseNext _ later stays]

/-! ## The rows and the history -/

/-- The stored sessions are the leases that the history gives. -/
structure Accounted (sessions : List WebSession) (history : List SessionRecord) : Prop where
  /-- The row of a token stands for its lease. -/
  leases : ∀ token, (getWebSession sessions token).map leaseOf = leaseAfter token history
  /-- The deadlines of every row are those of its lease. -/
  timed : ∀ row ∈ sessions, WellTimed row
  /-- No row has the empty token. -/
  named : ∀ row ∈ sessions, row.token ≠ ""

/-- An event with one token leaves the leases of the others. -/
theorem leaseNext_of_other {token other : String} {record : SessionRecord} (lease : Option Lease)
    (sent : record.event.cookieToken = some token) (different : other ≠ token) :
    leaseNext other lease record = lease := by
  have unsent : record.event.cookieToken ≠ some other := fun same =>
    different (Option.some.inj (same.symm.trans sent))
  refine leaseNext_other lease ?_ (fun accepts => unsent accepts.1) fun ends => unsent ends.1
  rw [SessionRecord.Creates]
  cases shape : record.event with
  | create =>
    rw [shape] at sent
    cases sent
  | request | logout => exact not_false

/-- A login adds the row of a lease that it grants. -/
theorem Accounted.create {sessions : List WebSession} {history : List SessionRecord}
    (accounted : Accounted sessions history) (now : Nat) (token : SessionToken)
    (username role : String) (authMethod : LoginMethod) (actorId : Option Nat)
    (clientIp : Option String) (unused : ∀ record ∈ history, ¬record.Creates token.value)
    (once : CreatedOnce history) :
    Accounted
      (sessions ++ [createSession now token username role authMethod actorId clientIp])
      (history ++ [⟨now, .create token username role authMethod actorId clientIp, 200⟩]) := by
  have none : getWebSession sessions token.value = none := by
    cases found : getWebSession sessions token.value with
    | none => rfl
    | some row =>
      have held := accounted.leases token.value
      rw [found, Option.map_some] at held
      obtain ⟨_, created, _, rfl, creates, _⟩ := (leaseAfter_eq_some_iff once).mp held.symm
      exact absurd creates (unused created (List.mem_append_right _ List.mem_cons_self))
  refine ⟨fun other => ?_, fun row listed => ?_, fun row listed => ?_⟩
  · rw [getWebSession_append, leaseAfter_snoc, ← accounted.leases other]
    by_cases same : token.value = other
    · subst same
      have creates : SessionRecord.Creates token.value
          ⟨now, .create token username role authMethod actorId clientIp, 200⟩ := rfl
      rw [leaseNext_creates _ creates, none]
      simp only [createSession, Option.none_or, if_true, Option.map_some, leaseOf]
    · have apart : ¬(createSession now token username role authMethod actorId clientIp).token =
          other := same
      rw [if_neg apart, Option.or_none, leaseNext]
      simp only [if_neg same]
  · rcases List.mem_append.mp listed with before | new
    · exact accounted.timed row before
    · rw [List.mem_singleton.mp new]
      exact createSession_wellTimed now token username role authMethod actorId clientIp
  · rcases List.mem_append.mp listed with before | new
    · exact accounted.named row before
    · rw [List.mem_singleton.mp new]
      intro blank
      have sized := token.sized
      rw [show token.value = "" from blank] at sized
      cases sized

/-- A row that the session check passes is slid as its lease is renewed. -/
theorem Accounted.accept {sessions : List WebSession} {history : List SessionRecord}
    (accounted : Accounted sessions history) {now : Nat} {token : String} {row : WebSession}
    (found : getWebSession sessions token = some row) {record : SessionRecord}
    (dated : record.now = now) (accepts : record.Accepts token) (stays : ¬record.Ends token) :
    Accounted (replaceRow WebSession.token (slid now row) sessions) (history ++ [record]) := by
  have named : row.token = token := token_of_getWebSession found
  have listed : row ∈ sessions := List.mem_of_find?_eq_some found
  have present : getWebSession sessions (slid now row).token = some row := by
    rw [show (slid now row).token = token from named]
    exact found
  refine ⟨fun other => ?_, fun other mem => ?_, fun other mem => ?_⟩
  · rw [getWebSession_replaceRow present, leaseAfter_snoc, ← accounted.leases other]
    by_cases same : other = token
    · subst same
      have asked : other = (slid now row).token := named.symm
      rw [if_pos asked, leaseNext_accepts _ accepts stays, found, dated]
      rfl
    · have apart : ¬other = (slid now row).token := fun clash => same (clash.trans named)
      rw [if_neg apart, leaseNext_of_other _ accepts.1 same]
  · rcases mem_replaceRow mem with rfl | ⟨before, _⟩
    · exact slid_wellTimed (accounted.timed row listed)
    · exact accounted.timed other before
  · rcases mem_replaceRow mem with rfl | ⟨before, _⟩
    · exact accounted.named row listed
    · exact accounted.named other before

/-- Rows of which only those of an ended token were deleted stay accounted for. -/
theorem Accounted.ended {sessions after : List WebSession} {history : List SessionRecord}
    (accounted : Accounted sessions history) {token : String} {record : SessionRecord}
    (ends : record.Ends token) (gone : getWebSession after token = none)
    (others : ∀ other, other ≠ token → getWebSession after other = getWebSession sessions other)
    (kept : ∀ row ∈ after, row ∈ sessions) : Accounted after (history ++ [record]) := by
  refine ⟨fun other => ?_, fun row listed => accounted.timed row (kept row listed),
    fun row listed => accounted.named row (kept row listed)⟩
  rw [leaseAfter_snoc, ← accounted.leases other]
  by_cases same : other = token
  · subst same
    rw [gone, leaseNext_ends _ ends]
    rfl
  · rw [others other same, leaseNext_of_other _ ends.1 same]

/-- A rejection leaves the rows accounted for. -/
theorem Accounted.rejected {sessions after : List WebSession} {history : List SessionRecord}
    (accounted : Accounted sessions history) {now : Nat} {record : SessionRecord}
    (refused : Rejected sessions now record.event.cookieToken after)
    (uncreated : ∀ token, ¬record.Creates token) (status : record.status = 401) :
    Accounted after (history ++ [record]) := by
  have ends : ∀ token, record.event.cookieToken = some token → record.Ends token :=
    fun token sent => ⟨sent, .inl status⟩
  cases sent : record.event.cookieToken with
  | none =>
    rw [sent] at refused
    cases refused with
    | noSession missing =>
      refine ⟨fun other => ?_, accounted.timed, accounted.named⟩
      have unsent : record.event.cookieToken ≠ some other := by simp [sent]
      rw [leaseAfter_snoc, leaseNext_other _ (uncreated other) (fun accepts => unsent accepts.1)
        fun ends => unsent ends.1]
      exact accounted.leases other
    | unknown sent => cases sent
    | expired sent => cases sent
  | some token =>
    have unknown : ∀ other, getWebSession sessions other = none →
        some token = some other → Accounted sessions (history ++ [record]) := by
      intro other missing same
      obtain rfl := Option.some.inj same
      exact accounted.ended (ends token sent) missing (fun _ _ => rfl) fun _ listed => listed
    rw [sent] at refused
    cases refused with
    | noSession missing =>
      rcases missing with absent | blank
      · cases absent
      · refine unknown "" ?_ blank
        refine List.find?_eq_none.mpr fun row listed => ?_
        simpa only [decide_eq_true_eq] using accounted.named row listed
    | unknown same missing => exact unknown _ missing same
    | @expired other row same found late =>
      obtain rfl := Option.some.inj same
      refine accounted.ended (ends token sent) ?_ (fun other different => ?_)
        fun row listed => (List.mem_filter.mp listed).1
      · rw [getWebSession_delete, if_pos rfl]
      · rw [getWebSession_delete, if_neg different]

/-! ## Runs -/

/-- A created token is a new one. -/
def DistinctTokens (state : SessionSystem) : Nat × SessionEvent → Prop
  | (_, .create token ..) => ∀ record ∈ state.history, ¬record.Creates token.value
  | _ => True

/-- What a request with a token is answered follows from the history before it. -/
def Explained (history : List SessionRecord) : Prop :=
  ∀ before record after, history = before ++ record :: after →
    ∀ token, record.event.cookieToken = some token →
      (record.Accepts token ↔ ∃ lease, leaseAfter token before = some lease ∧
        lease.Live sessionSlidingLifetime sessionHardLifetime record.now)

/-- What every run with distinct tokens keeps. -/
structure SessionInvariant (state : SessionSystem) : Prop where
  /-- The rows are the leases of the history. -/
  accounted : Accounted state.sessions state.history
  /-- No token was created twice. -/
  once : CreatedOnce state.history
  /-- Every answer follows from the history. -/
  explained : Explained state.history

/-- One more answer that follows from the history before it. -/
theorem Explained.snoc {history : List SessionRecord} {record : SessionRecord}
    (explained : Explained history)
    (latest : ∀ token, record.event.cookieToken = some token →
      (record.Accepts token ↔ ∃ lease, leaseAfter token history = some lease ∧
        lease.Live sessionSlidingLifetime sessionHardLifetime record.now)) :
    Explained (history ++ [record]) := by
  intro before other after split
  rcases List.eq_nil_or_concat after with rfl | ⟨middle, last, rfl⟩
  · obtain ⟨rfl, rfl⟩ := List.append_inj' split rfl
      |>.imp id fun same => (List.cons.inj same).1
    exact latest
  · have parts : history ++ [record] = (before ++ other :: middle) ++ [last] := by simp [split]
    exact explained before other middle (List.append_inj' parts rfl).1

/-- An event that creates nothing keeps every token created once. -/
theorem CreatedOnce.snoc {history : List SessionRecord} {record : SessionRecord}
    (once : CreatedOnce history)
    (unused : ∀ token, record.Creates token → ∀ earlier ∈ history, ¬earlier.Creates token) :
    CreatedOnce (history ++ [record]) := by
  refine List.pairwise_append.mpr ⟨once, List.pairwise_singleton _ _, ?_⟩
  intro earlier listed last new token creates later
  rw [List.mem_singleton.mp new] at later
  exact unused token later earlier listed creates

/-- The session check passes a token exactly while its lease is live. -/
theorem check_explained {sessions : List WebSession} {history : List SessionRecord}
    (accounted : Accounted sessions history) (now : Nat) (cookieToken : Option String)
    (request : ClientRequest) (token : String) (sent : cookieToken = some token) :
    (∃ ctx, (requireSession sessions now cookieToken request).2 = .ok ctx) ↔
      ∃ lease, leaseAfter token history = some lease ∧
        lease.Live sessionSlidingLifetime sessionHardLifetime now := by
  have held := accounted.leases token
  rcases requireSession_cases sessions now cookieToken request with
    ⟨other, row, ctx, same, filled, found, early, checked, _⟩ |
    ⟨error, after, status, refused, checked⟩
  · obtain rfl : token = other := Option.some.inj (sent.symm.trans same)
    have listed : row ∈ sessions := List.mem_of_find?_eq_some found
    rw [found, Option.map_some] at held
    rw [checked]
    exact ⟨fun _ => ⟨leaseOf row, held.symm, (live_iff_deadlines (accounted.timed row listed)).mpr
      early⟩, fun _ => ⟨ctx, rfl⟩⟩
  · rw [checked]
    refine ⟨fun ⟨_, passed⟩ => (nomatch passed), fun ⟨lease, leased, live⟩ => ?_⟩
    have row : ∃ row, getWebSession sessions token = some row ∧ leaseOf row = lease := by
      rw [leased] at held
      exact Option.map_eq_some_iff.mp held
    obtain ⟨row, found, rfl⟩ := row
    have listed : row ∈ sessions := List.mem_of_find?_eq_some found
    cases refused with
    | noSession missing =>
      rcases missing with absent | blank
      · cases absent.symm.trans sent
      · obtain rfl := Option.some.inj (sent.symm.trans blank)
        exact absurd (token_of_getWebSession found) (accounted.named row listed)
    | unknown same missing =>
      obtain rfl := Option.some.inj (sent.symm.trans same)
      cases found.symm.trans missing
    | expired same foundToo late =>
      obtain rfl := Option.some.inj (sent.symm.trans same)
      obtain rfl := Option.some.inj (found.symm.trans foundToo)
      exact absurd late ((live_iff_deadlines (accounted.timed row listed)).mp live)

/-- An authenticated request keeps the invariant. -/
theorem sessionInvariant_request {state next : SessionSystem} {now : Nat}
    {cookieToken : Option String} {request : ClientRequest} (kept : SessionInvariant state)
    (stepped : SessionSystem.step state (now, .request cookieToken request) = some next) :
    SessionInvariant next := by
  have explained := check_explained kept.accounted now cookieToken request
  have uncreated : ∀ token status,
      ¬SessionRecord.Creates token ⟨now, .request cookieToken request, status⟩ :=
    fun _ _ creates => creates
  simp only [SessionSystem.step, Option.some.injEq] at stepped
  subst stepped
  rcases requireSession_cases state.sessions now cookieToken request with
    ⟨token, row, ctx, same, filled, found, early, checked, _⟩ |
    ⟨error, after, status, refused, checked⟩
  · rw [checked] at explained ⊢
    subst same
    have accepts : SessionRecord.Accepts token ⟨now, .request (some token) request, 200⟩ :=
      ⟨rfl, fun rejected => (nomatch rejected)⟩
    have stays : ¬SessionRecord.Ends token ⟨now, .request (some token) request, 200⟩ := by
      rintro ⟨_, rejected | ⟨_, loggedOut, _⟩⟩
      · cases rejected
      · cases loggedOut
    refine ⟨kept.accounted.accept found rfl accepts stays,
      kept.once.snoc fun other creates => absurd creates (uncreated other _),
      kept.explained.snoc fun other sent => ?_⟩
    rw [← explained other sent]
    obtain rfl := Option.some.inj sent
    exact ⟨fun _ => ⟨ctx, rfl⟩, fun _ => accepts⟩
  · rw [checked] at explained ⊢
    have rejected : Accounted after
        (state.history ++ [⟨now, .request cookieToken request, error.status⟩]) :=
      kept.accounted.rejected refused (fun other => uncreated other _) status
    refine ⟨rejected, kept.once.snoc fun other creates => absurd creates (uncreated other _),
      kept.explained.snoc fun other sent => ?_⟩
    rw [← explained other sent]
    exact ⟨fun accepts => absurd status accepts.2, fun ⟨_, passed⟩ => (nomatch passed)⟩

/-- A logout keeps the invariant, whether its audit row is stored or not. -/
theorem sessionInvariant_logout {state next : SessionSystem} {now : Nat}
    {cookieToken : Option String} {request : ClientRequest} (kept : SessionInvariant state)
    (stepped : SessionSystem.step state (now, .logout cookieToken request) = some next) :
    SessionInvariant next := by
  have explained := check_explained kept.accounted now cookieToken request
  have uncreated : ∀ token status,
      ¬SessionRecord.Creates token ⟨now, .logout cookieToken request, status⟩ :=
    fun _ _ creates => creates
  simp only [SessionSystem.step, Option.some.injEq] at stepped
  subst stepped
  rcases requireSession_cases state.sessions now cookieToken request with
    ⟨token, row, ctx, same, filled, found, early, checked, named⟩ |
    ⟨error, after, status, refused, checked⟩
  · subst same
    have passes : ∀ status, status ≠ 401 → ∀ other, some token = some other →
        (SessionRecord.Accepts other ⟨now, .logout (some token) request, status⟩ ↔
          ∃ lease, leaseAfter other state.history = some lease ∧
            lease.Live sessionSlidingLifetime sessionHardLifetime now) := by
      intro status accepted other sent
      have checkedOk := explained other sent
      rw [checked] at checkedOk
      rw [← checkedOk]
      exact ⟨fun _ => ⟨ctx, rfl⟩, fun _ => ⟨sent, accepted⟩⟩
    have rowToken : row.token = token := token_of_getWebSession found
    have foundSlid : getWebSession state.sessions (slid now row).token = some row := by
      rw [show (slid now row).token = token from rowToken]
      exact found
    simp only [logout, checked]
    split
    · -- The deletion is committed with its audit row.
      have ends : SessionRecord.Ends token ⟨now, .logout (some token) request, 204⟩ :=
        ⟨rfl, .inr ⟨request, rfl, rfl⟩⟩
      have present : getWebSession (replaceRow WebSession.token (slid now row) state.sessions)
          token = some (slid now row) := by
        have asked : token = (slid now row).token := rowToken.symm
        rw [getWebSession_replaceRow foundSlid, if_pos asked]
      refine ⟨?_, kept.once.snoc fun other creates => absurd creates (uncreated other _),
        kept.explained.snoc fun other sent => passes 204 (by decide) other sent⟩
      rw [named, revokeSession, present]
      refine kept.accounted.ended ends ?_ (fun other different => ?_) fun other listed => ?_
      · rw [getWebSession_delete, if_pos rfl]
      · have apart : ¬other = (slid now row).token := fun clash => different (clash.trans rowToken)
        rw [getWebSession_delete, if_neg different, getWebSession_replaceRow foundSlid,
          if_neg apart]
      · obtain ⟨replaced, apart⟩ := List.mem_filter.mp listed
        rcases mem_replaceRow replaced with rfl | ⟨before, _⟩
        · exact absurd rowToken (of_decide_eq_true apart)
        · exact before
    · have accepts : SessionRecord.Accepts token ⟨now, .logout (some token) request, 500⟩ :=
        ⟨rfl, show (500 : Nat) ≠ 401 by decide⟩
      have stays : ¬SessionRecord.Ends token ⟨now, .logout (some token) request, 500⟩ := by
        rintro ⟨_, rejected | ⟨_, _, done⟩⟩
        · cases rejected
        · cases done
      exact ⟨kept.accounted.accept found rfl accepts stays,
        kept.once.snoc fun other creates => absurd creates (uncreated other _),
        kept.explained.snoc fun other sent => passes 500 (by decide) other sent⟩
  · simp only [logout, checked]
    have rejected : Accounted after
        (state.history ++ [⟨now, .logout cookieToken request, error.status⟩]) :=
      kept.accounted.rejected refused (fun other => uncreated other _) status
    refine ⟨rejected, kept.once.snoc fun other creates => absurd creates (uncreated other _),
      kept.explained.snoc fun other sent => ?_⟩
    have refusedToo := explained other sent
    rw [checked] at refusedToo
    rw [← refusedToo]
    constructor
    · intro accepts
      exact absurd status accepts.2
    · intro passes
      obtain ⟨ctx, passed⟩ := passes
      cases passed

/-- A login with a new token keeps the invariant. -/
theorem sessionInvariant_create {state : SessionSystem} (kept : SessionInvariant state) (now : Nat)
    (token : SessionToken) (username role : String) (authMethod : LoginMethod)
    (actorId : Option Nat) (clientIp : Option String)
    (unused : ∀ record ∈ state.history, ¬record.Creates token.value) :
    SessionInvariant {
      state with
      sessions := state.sessions ++
        [createSession now token username role authMethod actorId clientIp]
      history := state.history ++
        [⟨now, .create token username role authMethod actorId clientIp, 200⟩] } := by
  refine ⟨kept.accounted.create now token username role authMethod actorId clientIp unused
    kept.once, kept.once.snoc fun other creates earlier listed => ?_,
    kept.explained.snoc fun other sent => nomatch sent⟩
  exact (show token.value = other from creates) ▸ unused earlier listed

/-- Every step with a new token, if it creates one, keeps the invariant. -/
theorem sessionInvariant_step {state next : SessionSystem} {label : Nat × SessionEvent}
    (kept : SessionInvariant state) (distinct : DistinctTokens state label)
    (stepped : SessionSystem.step state label = some next) : SessionInvariant next := by
  obtain ⟨now, event⟩ := label
  cases event with
  | create token username role authMethod actorId clientIp =>
    cases stepped
    exact sessionInvariant_create kept now token username role authMethod actorId clientIp distinct
  | request cookieToken request => exact sessionInvariant_request kept stepped
  | logout cookieToken request => exact sessionInvariant_logout kept stepped

/-- Every run with distinct tokens keeps the invariant. -/
theorem sessionInvariant_run {labels : List (Nat × SessionEvent)} {final : SessionSystem}
    (distinct : SessionSystem.step.Admits DistinctTokens .empty labels)
    (ran : SessionSystem.step.run .empty labels = some final) : SessionInvariant final := by
  have start : SessionInvariant .empty := by
    refine ⟨⟨fun _ => rfl, fun _ listed => absurd listed List.not_mem_nil,
      fun _ listed => absurd listed List.not_mem_nil⟩, List.Pairwise.nil,
      fun before record after split => ?_⟩
    exact absurd split.symm (by simp [SessionSystem.empty])
  exact Step.run_preserves SessionInvariant
    (fun _ _ _ before guarded stepped => sessionInvariant_step before guarded stepped) start
    distinct ran

/-- The history of a token lets it in at a time: it was created, was neither rejected nor logged
out since, and the time is before the hard deadline and before the sliding one after the last
accepted request. -/
def LetsIn (token : String) (history : List SessionRecord) (now : Nat) : Prop :=
  ∃ before created since, history = before ++ created :: since ∧ created.Creates token ∧
    (∀ record ∈ since, ¬record.Ends token) ∧ now < created.now + sessionHardLifetime ∧
    now < lastAccepted token created.now since + sessionSlidingLifetime

/-- A live lease is what lets a token in. -/
theorem letsIn_iff {token : String} {history : List SessionRecord} {now : Nat}
    (once : CreatedOnce history) :
    (∃ lease, leaseAfter token history = some lease ∧
      lease.Live sessionSlidingLifetime sessionHardLifetime now) ↔ LetsIn token history now := by
  constructor
  · rintro ⟨lease, leased, live⟩
    obtain ⟨before, created, since, split, creates, running, rfl⟩ :=
      (leaseAfter_eq_some_iff once).mp leased
    have bounds := Lease.live_iff.mp live
    exact ⟨before, created, since, split, creates, running, bounds.2, bounds.1⟩
  · rintro ⟨before, created, since, split, creates, running, hard, sliding⟩
    exact ⟨_, (leaseAfter_eq_some_iff once).mpr ⟨before, created, since, split, creates, running,
      rfl⟩, Lease.live_iff.mpr ⟨sliding, hard⟩⟩

/-- A lease that has ended stays so until the token is created again. -/
theorem foldl_leaseNext_none {token : String} {since : List SessionRecord}
    (created : ∀ record ∈ since, ¬record.Creates token) :
    since.foldl (leaseNext token) none = none := by
  induction since with
  | nil => rfl
  | cons record later ih =>
    have first := created record List.mem_cons_self
    have ended : leaseNext token none record = none := by
      by_cases ends : record.Ends token
      · exact leaseNext_ends none ends
      · by_cases accepts : record.Accepts token
        · exact leaseNext_accepts none accepts ends
        · exact leaseNext_other none first accepts ends
    rw [List.foldl_cons, ended]
    exact ih fun other listed => created other (List.mem_cons_of_mem _ listed)

/-- In every run of logins with distinct tokens, authenticated requests and logouts, a request or
a logout with a token passes the session check exactly when the history before it lets the token
in; no stored row expires after its hard deadline; and a token that was rejected or logged out
after its creation never passes again. -/
theorem session_lifetime {labels : List (Nat × SessionEvent)} {final : SessionSystem}
    (distinct : SessionSystem.step.Admits DistinctTokens .empty labels)
    (ran : SessionSystem.step.run .empty labels = some final) :
    (∀ before record after, final.history = before ++ record :: after →
      ∀ token, record.event.cookieToken = some token →
        (record.Accepts token ↔ LetsIn token before record.now)) ∧
    (∀ row ∈ final.sessions, row.expiresAt ≤ row.hardExpiresAt) ∧
    (∀ before ended after token, final.history = before ++ ended :: after →
      ended.Ends token → (∃ created ∈ before, created.Creates token) →
      ∀ record ∈ after, ¬record.Accepts token) := by
  have kept : SessionInvariant final := sessionInvariant_run distinct ran
  have prefixOnce : ∀ before after, final.history = before ++ after → CreatedOnce before :=
    fun before after split => (List.pairwise_append.mp (split ▸ kept.once)).1
  refine ⟨fun before record after split token sent => ?_, fun row listed => ?_,
    fun before ended after token split ends creation record listed accepts => ?_⟩
  · rw [← letsIn_iff (prefixOnce before _ split)]
    exact kept.explained before record after split token sent
  · have timed := kept.accounted.timed row listed
    rw [timed.sliding, timed.hard]
    exact (leaseOf row).deadline_le_cap
  · obtain ⟨middle, later, rfl⟩ := List.append_of_mem listed
    have whole : final.history = (before ++ ended :: middle) ++ record :: later := by simp [split]
    have answered := (kept.explained _ record later whole token accepts.1).mp accepts
    obtain ⟨lease, leased, _⟩ := answered
    -- The only creation of the token came before it ended, so no lease is left.
    have uncreated : ∀ other ∈ middle, ¬other.Creates token := by
      intro other mem again
      obtain ⟨created, earlier, creates⟩ := creation
      have apart := (List.pairwise_append.mp (prefixOnce _ _ whole)).2.2 created earlier other
        (List.mem_cons_of_mem _ mem)
      exact apart token creates again
    rw [leaseAfter, List.foldl_append, List.foldl_cons, leaseNext_ends _ ends,
      foldl_leaseNext_none uncreated] at leased
    cases leased

/-- The length of the sample token. -/
theorem sampleToken_sized : "rW3kQmB1v9xZpT6yLc0aHdU8sJ2fEgNoIiK5uXqRt7Y".length = 43 := by decide

/-- The characters of the sample token. -/
theorem sampleToken_encoded :
    "rW3kQmB1v9xZpT6yLc0aHdU8sJ2fEgNoIiK5uXqRt7Y".toList.all isBase64Url = true := by decide

/-- A token. -/
def sampleToken : SessionToken := ⟨_, sampleToken_sized, sampleToken_encoded⟩

/-- A login and two requests, seven hours apart. -/
def visits : List (Nat × SessionEvent) :=
  [(0, .create sampleToken "alice" "admin" .saml none none),
    (hours 7, .request (some sampleToken.value) ⟨none, none⟩),
    (hours 14, .request (some sampleToken.value) ⟨none, none⟩)]

/-- The state that these events lead to. -/
def afterVisits : SessionSystem := (SessionSystem.step.run .empty visits).getD .empty

/-- The second request is accepted, so the history lets it in: fourteen hours after the login
and seven after the first request. -/
theorem session_lifetime_visits :
    LetsIn sampleToken.value (afterVisits.history.take 2) (hours 14) := by
  have lifetime := @session_lifetime visits afterVisits
    (.cons (fun _ listed => absurd listed List.not_mem_nil) rfl
      (.cons trivial rfl (.cons trivial rfl trivial)))
    rfl
  have answered := lifetime.1 (afterVisits.history.take 2)
    ⟨hours 14, .request (some sampleToken.value) ⟨none, none⟩, 200⟩ [] rfl sampleToken.value rfl
  exact answered.mp ⟨rfl, by decide⟩

end TacacsWeb.Verif
