import TacacsWeb.Model.MyAccess
import TacacsWeb.Verif.SyncTables

/-!
# Whose access the caller sees

The name of the session is matched as a pattern, so it may select users of other names, several at
once, or none although a user has the name. The caller sees their own access exactly when the
pattern selects nobody but the user who is meant.
-/

namespace TacacsWeb.Verif

open TacacsWeb.Library TacacsWeb.Library.Text TacacsWeb.Library.LikePattern TacacsWeb.Model

/-! ## The statement -/

/-- The account name of a user is the name of the session, but for case. -/
def HasName (fold : CaseFolding) (username : String) (user : User) : Prop :=
  fold.sql user.samAccountName = fold.sql username

/-- The principal name of a user is the name of the session, but for case. -/
def HasUpn (fold : CaseFolding) (username : String) (user : User) : Prop :=
  ∃ upn, user.upn = some upn ∧ fold.sql upn = fold.sql username

/-- A user is meant by a name: it is their account name, or it is their principal name and nobody's
account name. -/
def IsMeant (fold : CaseFolding) (users : List User) (username : String) (user : User) : Prop :=
  HasName fold username user ∨
    '@' ∈ username.toList ∧ (∀ other ∈ users, ¬HasName fold username other) ∧
      HasUpn fold username user

/-- The request answers, with the data of a user who is meant if with that of a user at all, and
with such data if somebody has the account name. -/
def SeesOwnAccess (fold : CaseFolding) (order : RowOrder Authorization) (byName : RowOrder Device)
    (db : Database) (sessionUsername : String) : Prop :=
  ∃ read, myAccess fold order byName db sessionUsername = .ok read ∧
    (∀ user ∈ db.identity.users, read.tacacsUsername = some user.samAccountName →
      IsMeant fold db.identity.users (strip sessionUsername) user) ∧
    ((∃ user ∈ db.identity.users, HasName fold (strip sessionUsername) user) →
      ∃ user ∈ db.identity.users, read.tacacsUsername = some user.samAccountName)

/-- The pattern selects a user by a column. -/
def Selects (fold : CaseFolding) (column : User → Option String) (username : String)
    (user : User) : Prop :=
  ilikeColumn fold column username user = some true

/-- As a pattern on a column, the name is well formed as far as it is read, and selects at most one
user, who is meant. -/
structure SelectsMeant (fold : CaseFolding) (users : List User) (column : User → Option String)
    (username : String) : Prop where
  /-- No comparison comes to a backslash at the end. -/
  readable : ∀ user ∈ users, ilikeColumn fold column username user ≠ none
  /-- At most one user is selected. -/
  single : ∀ left ∈ users, ∀ right ∈ users, Selects fold column username left →
    Selects fold column username right → left = right
  /-- Whoever is selected is meant. -/
  meant : ∀ user ∈ users, Selects fold column username user → IsMeant fold users username user

/-- The name selects nobody but the user who is meant: among the account names and, if it selects
nobody there and has an `@`, among the principal names. Whoever has it as an account name is
selected. -/
def PatternFindsMeant (fold : CaseFolding) (users : List User) (username : String) : Prop :=
  SelectsMeant fold users samColumn username ∧
    ((∀ user ∈ users, ¬Selects fold samColumn username user) →
      (∀ user ∈ users, HasName fold username user →
        '@' ∈ username.toList ∧ Selects fold User.upn username user) ∧
      ('@' ∈ username.toList → SelectsMeant fold users User.upn username))

/-- The lookup finds who is meant, where an empty name means nobody. -/
def FindsMeant (fold : CaseFolding) (users : List User) (username : String) : Prop :=
  if username = "" then ∀ user ∈ users, ¬HasName fold username user
  else PatternFindsMeant fold users username

/-! ## The lookups -/

section Lookups

variable {fold : CaseFolding} {users : List User} {column : User → Option String}
  {username : String} {user : User}

/-- A lookup that answers read every row, and answers with the only user that is selected. -/
theorem lookupUser_eq_ok (distinct : users.Nodup) {found : Option User} :
    lookupUser fold column users username = .ok found ↔
      (∀ user ∈ users, ilikeColumn fold column username user ≠ none) ∧
        ∀ user, user ∈ found ↔ user ∈ users ∧ Selects fold column username user := by
  have unread : (users.any fun user => (ilikeColumn fold column username user).isNone) = true ↔
      ¬∀ user ∈ users, ilikeColumn fold column username user ≠ none := by
    simp [List.any_eq_true]
  unfold lookupUser
  by_cases readable : ∀ user ∈ users, ilikeColumn fold column username user ≠ none
  · rw [if_neg fun stuck => unread.mp stuck readable, and_iff_right readable]
    have hits (user : User) : user ∈ (users.filter fun user =>
        ilikeColumn fold column username user = some true) ↔
          user ∈ users ∧ Selects fold column username user := by
      rw [List.mem_filter, decide_eq_true_iff]
      rfl
    have once := distinct.filter fun user =>
      decide (ilikeColumn fold column username user = some true)
    cases selected : users.filter fun user =>
        ilikeColumn fold column username user = some true with
    | nil =>
      rw [selected] at hits
      simp only [← hits, scalarOneOrNone, List.not_mem_nil, iff_false, Option.mem_def,
        Except.ok.injEq]
      cases found <;> simp
    | cons first others =>
      cases others with
      | nil =>
        rw [selected] at hits
        simp only [← hits, scalarOneOrNone, List.mem_singleton, Option.mem_def, Except.ok.injEq]
        constructor
        · intro same user
          rw [← same, Option.some.injEq, eq_comm]
        · intro same
          exact ((same first).mpr rfl).symm
      | cons second rest =>
        rw [selected] at hits once
        have apart : first ≠ second := by
          intro same
          exact (List.nodup_cons.mp once).1 (same ▸ List.mem_cons_self)
        constructor
        · intro answered
          cases answered
        · intro same
          have both := (same first).mpr ((hits first).mp List.mem_cons_self)
          have two := (same second).mpr
            ((hits second).mp (List.mem_cons_of_mem _ List.mem_cons_self))
          exact absurd (Option.some.inj (both.symm.trans two)) apart
  · rw [if_pos (unread.mpr readable)]
    constructor
    · intro answered
      cases answered
    · intro answered
      exact absurd answered.1 readable

/-- A lookup answers when every row is read and at most one user is selected. -/
theorem exists_lookupUser (distinct : users.Nodup) :
    (∃ found, lookupUser fold column users username = .ok found) ↔
      (∀ user ∈ users, ilikeColumn fold column username user ≠ none) ∧
        ∀ left ∈ users, ∀ right ∈ users, Selects fold column username left →
          Selects fold column username right → left = right := by
  constructor
  · intro answered
    obtain ⟨found, same⟩ := answered
    obtain ⟨readable, only⟩ := (lookupUser_eq_ok distinct).mp same
    refine ⟨readable, fun left inLeft right inRight hitLeft hitRight => ?_⟩
    have first := (only left).mpr ⟨inLeft, hitLeft⟩
    have second := (only right).mpr ⟨inRight, hitRight⟩
    exact Option.some.inj (first.symm.trans second)
  · intro single
    by_cases any : ∃ user ∈ users, Selects fold column username user
    · obtain ⟨user, listed, hit⟩ := any
      refine ⟨some user, (lookupUser_eq_ok distinct).mpr ⟨single.1, fun other => ?_⟩⟩
      rw [Option.mem_some_iff]
      constructor
      · intro same
        rw [← same]
        exact ⟨listed, hit⟩
      · intro found
        exact single.2 user listed other found.1 hit found.2
    · refine ⟨none, (lookupUser_eq_ok distinct).mpr ⟨single.1, fun other => ?_⟩⟩
      constructor
      · intro found
        cases found
      · intro found
        exact absurd ⟨other, found⟩ any

/-- A lookup answers nobody when every row is read and nobody is selected. -/
theorem lookupUser_eq_none (distinct : users.Nodup) :
    lookupUser fold column users username = .ok none ↔
      (∀ user ∈ users, ilikeColumn fold column username user ≠ none) ∧
        ∀ user ∈ users, ¬Selects fold column username user := by
  rw [lookupUser_eq_ok distinct]
  refine and_congr_right fun _ => forall_congr' fun user => ?_
  simp

/-- A lookup that answers selects at most one user, who is meant if the answer is. -/
theorem selectsMeant_of_found (distinct : users.Nodup) {found : Option User}
    (answered : lookupUser fold column users username = .ok found)
    (meant : ∀ user ∈ found, IsMeant fold users username user) :
    SelectsMeant fold users column username := by
  have single := (exists_lookupUser distinct).mp ⟨found, answered⟩
  have only := ((lookupUser_eq_ok distinct).mp answered).2
  exact ⟨single.1, single.2, fun user listed hit => meant user ((only user).mpr ⟨listed, hit⟩)⟩

/-- A name that selects at most the user who is meant is answered, with that user at most. -/
theorem SelectsMeant.found (distinct : users.Nodup)
    (selects : SelectsMeant fold users column username) :
    ∃ found, lookupUser fold column users username = .ok found ∧
      (∀ user, user ∈ found ↔ user ∈ users ∧ Selects fold column username user) ∧
      ∀ user ∈ found, IsMeant fold users username user := by
  obtain ⟨found, answered⟩ :=
    (exists_lookupUser distinct).mpr ⟨selects.readable, selects.single⟩
  have only := ((lookupUser_eq_ok distinct).mp answered).2
  refine ⟨found, answered, only, fun user chosen => ?_⟩
  have selected := (only user).mp chosen
  exact selects.meant user selected.1 selected.2

/-- Whoever a name is resolved to is a user. -/
theorem resolveCaller_mem (distinct : users.Nodup) {found : Option User}
    (resolved : resolveCaller fold users username = .ok found) (chosen : user ∈ found) :
    user ∈ users := by
  unfold resolveCaller at resolved
  by_cases empty : username = ""
  · rw [if_pos empty] at resolved
    cases resolved
    cases chosen
  · rw [if_neg empty] at resolved
    cases byName : lookupUser fold samColumn users username with
    | error raised =>
      rw [byName] at resolved
      cases resolved
    | ok first =>
      have only := ((lookupUser_eq_ok distinct).mp byName).2
      rw [byName] at resolved
      cases first with
      | some caller =>
        cases resolved
        exact ((only user).mp chosen).1
      | none =>
        simp only at resolved
        by_cases isAddress : '@' ∈ username.toList
        · rw [if_pos isAddress] at resolved
          exact (((lookupUser_eq_ok distinct).mp resolved).2 user |>.mp chosen).1
        · rw [if_neg isAddress] at resolved
          cases resolved
          cases chosen

end Lookups

/-! ## The resolution -/

/-- The name is resolved, to a user who is meant if to a user at all, and to a user if somebody has
the account name. -/
def ResolvesMeant (fold : CaseFolding) (users : List User) (username : String) : Prop :=
  ∃ found, resolveCaller fold users username = .ok found ∧
    (∀ user ∈ found, IsMeant fold users username user) ∧
    ((∃ user ∈ users, HasName fold username user) → found ≠ none)

section Resolution

variable {fold : CaseFolding} {tables : IdentityTables} {username : String}

/-- The rows of valid tables are told apart. -/
theorem users_nodup (valid : tables.Valid fold) : tables.users.Nodup :=
  valid.userId.of_map _

/-- A pattern that is resolved to the user meant finds them. -/
theorem patternFindsMeant_of_resolves (valid : tables.Valid fold) (given : username ≠ "")
    (resolves : ResolvesMeant fold tables.users username) :
    PatternFindsMeant fold tables.users username := by
  have distinct := users_nodup valid
  obtain ⟨found, resolved, meant, named⟩ := resolves
  unfold resolveCaller at resolved
  rw [if_neg given] at resolved
  cases byName : lookupUser fold samColumn tables.users username with
  | error raised =>
    rw [byName] at resolved
    cases resolved
  | ok first =>
    rw [byName] at resolved
    cases first with
    | some caller =>
      cases resolved
      have only := ((lookupUser_eq_ok distinct).mp byName).2
      have selected := (only caller).mp rfl
      exact ⟨selectsMeant_of_found distinct byName meant,
        fun nobody => absurd selected.2 (nobody caller selected.1)⟩
    | none =>
      have unselected := (lookupUser_eq_none distinct).mp byName
      simp only at resolved
      refine ⟨selectsMeant_of_found distinct byName (fun user chosen => by cases chosen),
        fun _ => ⟨fun user listed has => ?_, fun isAddress => ?_⟩⟩
      · by_cases isAddress : '@' ∈ username.toList
        · rw [if_pos isAddress] at resolved
          obtain ⟨caller, chosen⟩ := Option.ne_none_iff_exists'.mp (named ⟨user, listed, has⟩)
          rw [chosen] at resolved
          have selected := (((lookupUser_eq_ok distinct).mp resolved).2 caller).mp rfl
          cases meant caller chosen with
          | inl hasToo =>
            have same : caller = user := eq_of_lower valid selected.1 listed (hasToo.trans has.symm)
            exact ⟨isAddress, same ▸ selected.2⟩
          | inr byAddress => exact absurd has (byAddress.2.1 user listed)
        · rw [if_neg isAddress] at resolved
          cases resolved
          exact absurd rfl (named ⟨user, listed, has⟩)
      · rw [if_pos isAddress] at resolved
        exact selectsMeant_of_found distinct resolved meant

/-- A pattern that finds the user meant is resolved to them. -/
theorem resolves_of_patternFindsMeant (valid : tables.Valid fold) (given : username ≠ "")
    (finds : PatternFindsMeant fold tables.users username) :
    ResolvesMeant fold tables.users username := by
  have distinct := users_nodup valid
  obtain ⟨byName, otherwise⟩ := finds
  obtain ⟨first, answered, only, meant⟩ := byName.found distinct
  unfold ResolvesMeant resolveCaller
  rw [if_neg given, answered]
  cases first with
  | some caller =>
    exact ⟨some caller, rfl, meant, fun _ => Option.some_ne_none caller⟩
  | none =>
    have nobody : ∀ user ∈ tables.users, ¬Selects fold samColumn username user := by
      intro user listed hit
      cases (only user).mpr ⟨listed, hit⟩
    obtain ⟨named, byAddress⟩ := otherwise nobody
    by_cases isAddress : '@' ∈ username.toList
    · obtain ⟨second, answeredToo, onlyToo, meantToo⟩ := (byAddress isAddress).found distinct
      refine ⟨second, ?_, meantToo, ?_⟩
      · simp only [if_pos isAddress, answeredToo]
      · intro someone
        obtain ⟨user, listed, has⟩ := someone
        have chosen := (onlyToo user).mpr ⟨listed, (named user listed has).2⟩
        exact Option.ne_none_iff_exists'.mpr ⟨user, chosen⟩
    · refine ⟨none, ?_, ?_, ?_⟩
      · simp only [if_neg isAddress]
      · intro user chosen
        cases chosen
      · intro someone
        obtain ⟨user, listed, has⟩ := someone
        exact absurd (named user listed has).1 isAddress

/-- A name is resolved to the user meant when, as a pattern, it finds them. -/
theorem resolvesMeant_iff (valid : tables.Valid fold) :
    ResolvesMeant fold tables.users username ↔ FindsMeant fold tables.users username := by
  unfold FindsMeant
  by_cases given : username = ""
  · rw [if_pos given]
    unfold ResolvesMeant resolveCaller
    rw [if_pos given]
    constructor
    · intro resolves user listed has
      obtain ⟨found, resolved, _, named⟩ := resolves
      cases resolved
      exact named ⟨user, listed, has⟩ rfl
    · intro nobody
      refine ⟨none, rfl, fun user chosen => ?_, fun someone => ?_⟩
      · cases chosen
      · obtain ⟨user, listed, has⟩ := someone
        exact absurd has (nobody user listed)
  · rw [if_neg given]
    exact ⟨patternFindsMeant_of_resolves valid given, resolves_of_patternFindsMeant valid given⟩

end Resolution

/-! ## Plain names -/

section PlainNames

variable {fold : CaseFolding} {users : List User} {username : String}

/-- The name has no character that is special in a pattern. -/
def IsPlain (fold : CaseFolding) (username : String) : Prop :=
  ∀ char ∈ (fold.sql username).toList, isSpecial char = false

/-- A plain name compares with the text of the column, but for case. -/
theorem ilikeColumn_plain (plain : IsPlain fold username) (column : User → Option String)
    (user : User) :
    ilikeColumn fold column username user =
      some (decide (∃ text, column user = some text ∧ fold.sql text = fold.sql username)) := by
  unfold ilikeColumn
  cases stored : column user with
  | none => simp
  | some text =>
    simp only [ilike, matchesLike_plain plain, Option.some.injEq, exists_eq_left']
    exact decide_eq_decide.mpr String.toList_inj

/-- A plain name selects the users that have it. -/
theorem selects_plain (plain : IsPlain fold username) {column : User → Option String}
    {user : User} :
    Selects fold column username user ↔
      ∃ text, column user = some text ∧ fold.sql text = fold.sql username := by
  unfold Selects
  rw [ilikeColumn_plain plain, Option.some.injEq, decide_eq_true_iff]

/-- A plain name is always read. -/
theorem readable_plain (plain : IsPlain fold username) (column : User → Option String)
    (user : User) : ilikeColumn fold column username user ≠ none := by
  rw [ilikeColumn_plain plain]
  exact Option.some_ne_none _

/-- A plain name finds the user meant, as long as no two users share it as a principal name. -/
theorem findsMeant_of_plain {tables : IdentityTables} (valid : tables.Valid fold)
    (given : username ≠ "") (plain : IsPlain fold username)
    (unshared : ∀ left ∈ tables.users, ∀ right ∈ tables.users, HasUpn fold username left →
      HasUpn fold username right → left = right) :
    FindsMeant fold tables.users username := by
  have named {user : User} : Selects fold samColumn username user ↔ HasName fold username user := by
    rw [selects_plain plain]
    simp [samColumn, HasName]
  have addressed {user : User} : Selects fold User.upn username user ↔ HasUpn fold username user :=
    selects_plain plain
  unfold FindsMeant
  rw [if_neg given]
  refine ⟨⟨fun user _ => readable_plain plain samColumn user, ?_, ?_⟩, fun nobody => ⟨?_, ?_⟩⟩
  · intro left leftListed right rightListed leftHit rightHit
    have same := (named.mp leftHit).trans (named.mp rightHit).symm
    exact eq_of_lower valid leftListed rightListed same
  · intro user listed hit
    exact .inl (named.mp hit)
  · intro user listed has
    exact absurd (named.mpr has) (nobody user listed)
  · intro isAddress
    refine ⟨fun user _ => readable_plain plain User.upn user, ?_, ?_⟩
    · intro left leftListed right rightListed leftHit rightHit
      exact unshared left leftListed right rightListed (addressed.mp leftHit)
        (addressed.mp rightHit)
    · intro user listed hit
      have unnamed : ∀ other ∈ tables.users, ¬HasName fold username other :=
        fun other there has => nobody other there (named.mpr has)
      exact .inr ⟨isAddress, unnamed, addressed.mp hit⟩

end PlainNames

/-! ## The request -/

section Request

variable {fold : CaseFolding} {order : RowOrder Authorization} {byName : RowOrder Device}
  {db : Database} {sessionUsername : String}

/-- The user whose data the request answers with. -/
theorem myAccess_username {read : MyAccessRead}
    (answered : myAccess fold order byName db sessionUsername = .ok read) :
    ∃ found, resolveCaller fold db.identity.users (strip sessionUsername) = .ok found ∧
      read.tacacsUsername = found.map User.samAccountName := by
  unfold myAccess at answered
  cases resolved : resolveCaller fold db.identity.users (strip sessionUsername) with
  | error raised =>
    rw [resolved] at answered
    cases answered
  | ok found =>
    rw [resolved] at answered
    refine ⟨found, rfl, ?_⟩
    cases found with
    | none =>
      cases answered
      rfl
    | some caller =>
      cases answered
      rfl

/-- A name that is resolved is answered. -/
theorem myAccess_of_resolved {found : Option User}
    (resolved : resolveCaller fold db.identity.users (strip sessionUsername) = .ok found) :
    ∃ read, myAccess fold order byName db sessionUsername = .ok read ∧
      read.tacacsUsername = found.map User.samAccountName := by
  unfold myAccess
  rw [resolved]
  cases found with
  | none => exact ⟨_, rfl, rfl⟩
  | some caller => exact ⟨_, rfl, rfl⟩

/-- The callers see their own access when the name is resolved to the user meant. -/
theorem seesOwnAccess_iff_resolves (valid : db.identity.Valid fold) :
    SeesOwnAccess fold order byName db sessionUsername ↔
      ResolvesMeant fold db.identity.users (strip sessionUsername) := by
  have distinct := users_nodup valid
  constructor
  · intro sees
    obtain ⟨read, answered, own, named⟩ := sees
    obtain ⟨found, resolved, username⟩ := myAccess_username answered
    refine ⟨found, resolved, fun user chosen => ?_, fun someone absent => ?_⟩
    · refine own user (resolveCaller_mem distinct resolved chosen) ?_
      rw [username, Option.mem_def.mp chosen]
      rfl
    · obtain ⟨user, listed, shown⟩ := named someone
      rw [username, absent] at shown
      cases shown
  · intro resolves
    obtain ⟨found, resolved, meant, named⟩ := resolves
    obtain ⟨read, answered, username⟩ := myAccess_of_resolved resolved
    refine ⟨read, answered, fun user listed shown => ?_, fun someone => ?_⟩
    · rw [username] at shown
      obtain ⟨caller, chosen, same⟩ := Option.map_eq_some_iff.mp shown
      have callerListed := resolveCaller_mem distinct resolved chosen
      have one : caller = user :=
        List.inj_on_of_nodup_map valid.samAccountName callerListed listed same
      exact one ▸ meant caller chosen
    · obtain ⟨caller, chosen⟩ := Option.ne_none_iff_exists'.mp (named someone)
      refine ⟨caller, resolveCaller_mem distinct resolved chosen, ?_⟩
      rw [username, chosen]
      rfl

/-- In every database that syncs lead to, the callers see their own access exactly when the name of
their session, as a pattern, selects nobody but the user who is meant. -/
theorem seesOwnAccess_iff (reached : Reachable fold db.identity) :
    SeesOwnAccess fold order byName db sessionUsername ↔
      FindsMeant fold db.identity.users (strip sessionUsername) := by
  have valid := reachable_valid reached
  exact (seesOwnAccess_iff_resolves valid).trans (resolvesMeant_iff valid)

end Request

/-- An account without a GUID, principal name or groups. -/
def bareAccount (samAccountName : String) : ADUserRecord :=
  ⟨samAccountName, "CN=" ++ samAccountName, none, none, none, []⟩

/-- The identity tables after a sync of two accounts whose names differ in one character. -/
def twoNames : IdentityTables :=
  match runSync .ascii .empty ⟨0, 0, 0, [bareAccount "jan_a", bareAccount "janxa"]⟩ with
  | .ok (committed, _) => committed
  | .error _ => .empty

/-- The two accounts are reached by the sync. -/
theorem twoNames_reachable : Reachable .ascii twoNames :=
  .sync ⟨0, 0, 0, [bareAccount "jan_a", bareAccount "janxa"]⟩ .empty (by rfl)

/-- Without an underscore in the name, the user `janxa` sees the own access. -/
theorem seesOwnAccess_janxa :
    SeesOwnAccess .ascii (.asStored _) (.asStored _) ⟨twoNames, [], [], [], [], ∅⟩ " janxa" :=
  (@seesOwnAccess_iff .ascii (.asStored _) (.asStored _) ⟨twoNames, [], [], [], [], ∅⟩ " janxa"
    twoNames_reachable).mpr
    (findsMeant_of_plain (reachable_valid twoNames_reachable) (by decide +kernel)
      (forall_of_all (by decide +kernel))
      (by
        have unnamed : ∀ user ∈ twoNames.users, user.upn = none := by decide
        intro left leftListed right rightListed has
        obtain ⟨upn, stored, _⟩ := has
        rw [unnamed left leftListed] at stored
        cases stored))

/-- With an underscore in the name, the user `jan_a` is not answered. -/
theorem underscoreName_raises :
    ¬∀ (db : Database) (sessionUsername : String), Reachable .ascii db.identity →
      SeesOwnAccess .ascii (.asStored _) (.asStored _) db sessionUsername := by
  intro claimed
  have sees := claimed ⟨twoNames, [], [], [], [], ∅⟩ "jan_a" twoNames_reachable
  obtain ⟨read, answered, _⟩ := sees
  have raised : resolveCaller .ascii twoNames.users (strip "jan_a") = .error () := by
    decide +kernel
  obtain ⟨found, resolved, _⟩ := myAccess_username answered
  rw [raised] at resolved
  cases resolved

end TacacsWeb.Verif
