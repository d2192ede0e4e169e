import TacacsWeb.Model.Schema
import Mathlib.Data.List.Sort

/-!
# The authorization policy

`app.authz.policy`: filter the rules that apply to the user on the device group, prefer the
direct ones, and take the highest level, the lowest row id on a tie. `Wins` states the same
choice over the set of rules, so it depends neither on the order in which the rules are
listed nor on rules that could not apply; `evaluateForUser_winning` connects the two.
-/

namespace TacacsWeb.Model

/-- `EffectiveAuthorization`: the outcome of one authorization question. -/
structure EffectiveAuthorization where
  /-- The rule that decides, none when no rule applies. -/
  winning : Option LoadedAuthorization
  /-- The rules that lost to it. -/
  overridden : List LoadedAuthorization

/-- `EffectiveAuthorization.profile`. -/
def EffectiveAuthorization.profile (outcome : EffectiveAuthorization) : Option PrivilegeProfile :=
  outcome.winning.map LoadedAuthorization.privilegeProfile

/-- The filter of the candidate loop. -/
def isCandidate (user : LoadedUser) (deviceGroupId : Nat) (auth : LoadedAuthorization) : Bool :=
  if auth.deviceGroupId ≠ deviceGroupId then false
  else if auth.principalUserId = some user.id then true
  else match auth.principalAdGroupId with
    | none => false
    | some groupId => (user.groups.map ADGroup.id).contains groupId

/-- The sort key of the pool: descending level, then ascending id. -/
def ranksBefore (a b : LoadedAuthorization) : Prop :=
  b.privilegeProfile.tacacsPrivLvl < a.privilegeProfile.tacacsPrivLvl ∨
    a.privilegeProfile.tacacsPrivLvl = b.privilegeProfile.tacacsPrivLvl ∧ a.id ≤ b.id

instance : DecidableRel ranksBefore := fun a b =>
  inferInstanceAs (Decidable (b.privilegeProfile.tacacsPrivLvl < a.privilegeProfile.tacacsPrivLvl ∨
    a.privilegeProfile.tacacsPrivLvl = b.privilegeProfile.tacacsPrivLvl ∧ a.id ≤ b.id))

/-- The direct candidates, `[c for c in candidates if c.is_direct]`. -/
def directOf (candidates : List LoadedAuthorization) : List LoadedAuthorization :=
  candidates.filter fun auth => auth.isDirect

/-- The sorted pool: the direct candidates when there are any, else all of them. -/
def poolOf (candidates : List LoadedAuthorization) : List LoadedAuthorization :=
  (if directOf candidates = [] then candidates else directOf candidates).insertionSort ranksBefore

/-- `evaluate_for_user`. -/
def evaluateForUser (user : LoadedUser) (deviceGroupId : Nat)
    (authorizations : List LoadedAuthorization) : EffectiveAuthorization :=
  let candidates := authorizations.filter (isCandidate user deviceGroupId)
  match poolOf candidates with
  | [] => ⟨none, []⟩
  | winner :: rest =>
    -- Without direct rules the pool is the candidate list itself, sorted in place.
    let listed := if directOf candidates = [] then winner :: rest else candidates
    ⟨some winner, listed.filter fun auth => auth.id ≠ winner.id⟩

/-! ## The choice over a set of rules -/

/-- The rule is about the device group and its principal is the user or a group of theirs. -/
def Applies (user : LoadedUser) (deviceGroupId : Nat) (auth : LoadedAuthorization) : Prop :=
  auth.deviceGroupId = deviceGroupId ∧ (auth.principalUserId = some user.id ∨
    ∃ group ∈ user.groups, auth.principalAdGroupId = some group.id)

/-- The rule applies, and it is direct if any applying rule is. -/
def Eligible (user : LoadedUser) (deviceGroupId : Nat) (rules : List LoadedAuthorization)
    (auth : LoadedAuthorization) : Prop :=
  auth ∈ rules ∧ Applies user deviceGroupId auth ∧
    ((∃ other ∈ rules, Applies user deviceGroupId other ∧ other.isDirect = true) →
      auth.isDirect = true)

/-- The rule is eligible and ranks before every eligible rule. -/
def Wins (user : LoadedUser) (deviceGroupId : Nat) (rules : List LoadedAuthorization)
    (auth : LoadedAuthorization) : Prop :=
  Eligible user deviceGroupId rules auth ∧
    ∀ other, Eligible user deviceGroupId rules other → ranksBefore auth other

/-- The candidate filter decides applicability. -/
theorem isCandidate_iff {user : LoadedUser} {deviceGroupId : Nat} {auth : LoadedAuthorization} :
    isCandidate user deviceGroupId auth = true ↔ Applies user deviceGroupId auth := by
  unfold isCandidate Applies
  by_cases group : auth.deviceGroupId = deviceGroupId
  · by_cases direct : auth.principalUserId = some user.id
    · simp [group, direct]
    · cases auth.principalAdGroupId <;> simp [group, direct, eq_comm]
  · simp [group]

/-- Some applying rule is direct exactly when the direct part of the candidates is nonempty. -/
theorem directOf_ne_nil {user : LoadedUser} {deviceGroupId : Nat}
    {rules : List LoadedAuthorization} :
    directOf (rules.filter (isCandidate user deviceGroupId)) ≠ [] ↔
      ∃ other ∈ rules, Applies user deviceGroupId other ∧ other.isDirect = true := by
  simp only [directOf, ne_eq, List.filter_eq_nil_iff, List.mem_filter, isCandidate_iff]
  push Not
  simp only [and_assoc]

/-- The pool holds exactly the eligible rules. -/
theorem mem_poolOf {user : LoadedUser} {deviceGroupId : Nat} {rules : List LoadedAuthorization}
    {auth : LoadedAuthorization} :
    auth ∈ poolOf (rules.filter (isCandidate user deviceGroupId)) ↔
      Eligible user deviceGroupId rules auth := by
  unfold Eligible
  rw [← directOf_ne_nil, poolOf, List.mem_insertionSort]
  split
  · rename_i none
    simp [none, isCandidate_iff]
  · rename_i some
    simp only [directOf, List.mem_filter, isCandidate_iff, and_assoc]
    simp only [directOf] at some
    simp only [some, ne_eq, not_false_eq_true, true_imp_iff]

instance : Std.Total ranksBefore := ⟨fun a b => by unfold ranksBefore; omega⟩

instance : IsTrans LoadedAuthorization ranksBefore :=
  ⟨fun a b c first second => by unfold ranksBefore at *; omega⟩

/-- Two rules that rank before each other share their id. -/
theorem ranksBefore_antisymm {a b : LoadedAuthorization} (first : ranksBefore a b)
    (second : ranksBefore b a) : a.id = b.id := by
  unfold ranksBefore at *
  omega

/-- The outcome is the head of the pool. -/
theorem evaluateForUser_winning_head (user : LoadedUser) (deviceGroupId : Nat)
    (rules : List LoadedAuthorization) :
    (evaluateForUser user deviceGroupId rules).winning =
      (poolOf (rules.filter (isCandidate user deviceGroupId))).head? := by
  simp only [evaluateForUser]
  cases poolOf (rules.filter (isCandidate user deviceGroupId)) <;> rfl

/-- The winning rule ranks before every eligible rule. -/
theorem evaluateForUser_wins {user : LoadedUser} {deviceGroupId : Nat}
    {rules : List LoadedAuthorization} {winner : LoadedAuthorization}
    (outcome : (evaluateForUser user deviceGroupId rules).winning = some winner) :
    Wins user deviceGroupId rules winner := by
  rw [evaluateForUser_winning_head] at outcome
  obtain ⟨rest, shape⟩ := List.head?_eq_some_iff.mp outcome
  have sorted : (winner :: rest).Pairwise ranksBefore := by
    rw [← shape]
    exact List.pairwise_insertionSort ranksBefore _
  constructor
  · rw [← mem_poolOf, shape]
    exact List.mem_cons_self
  · intro other eligible
    rw [← mem_poolOf, shape] at eligible
    rcases List.mem_cons.mp eligible with rfl | later
    · exact (Std.Total.total (r := ranksBefore) other other).elim id id
    · exact (List.pairwise_cons.mp sorted).1 other later

/-- No rule wins exactly when no rule applies. -/
theorem evaluateForUser_none {user : LoadedUser} {deviceGroupId : Nat}
    {rules : List LoadedAuthorization} :
    (evaluateForUser user deviceGroupId rules).winning = none ↔
      ∀ auth ∈ rules, ¬ Applies user deviceGroupId auth := by
  rw [evaluateForUser_winning_head, List.head?_eq_none_iff, List.eq_nil_iff_forall_not_mem]
  simp only [mem_poolOf]
  constructor
  · intro empty auth listed applies
    by_cases some : ∃ other ∈ rules, Applies user deviceGroupId other ∧ other.isDirect = true
    · obtain ⟨other, present, also, direct⟩ := some
      exact empty other ⟨present, also, fun _ => direct⟩
    · exact empty auth ⟨listed, applies, fun found => absurd found some⟩
  · intro none auth eligible
    exact none auth eligible.1 eligible.2.1

/-- With distinct ids the policy picks the rule that wins, and no other. -/
theorem evaluateForUser_winning {user : LoadedUser} {deviceGroupId : Nat}
    {rules : List LoadedAuthorization} {winner : LoadedAuthorization}
    (distinct : ∀ a ∈ rules, ∀ b ∈ rules, a.id = b.id → a = b) :
    (evaluateForUser user deviceGroupId rules).winning = some winner ↔
      Wins user deviceGroupId rules winner := by
  refine ⟨evaluateForUser_wins, fun wins => ?_⟩
  cases outcome : (evaluateForUser user deviceGroupId rules).winning with
  | none => exact absurd wins.1.2.1 (evaluateForUser_none.mp outcome winner wins.1.1)
  | some chosen =>
    have chosenWins := evaluateForUser_wins outcome
    have same := ranksBefore_antisymm (chosenWins.2 winner wins.1) (wins.2 chosen chosenWins.1)
    rw [distinct chosen chosenWins.1.1 winner wins.1.1 same]

/-- The winner depends only on which applying rules are listed. -/
theorem wins_congr {user : LoadedUser} {deviceGroupId : Nat}
    {rules others : List LoadedAuthorization} {winner : LoadedAuthorization}
    (same : ∀ auth, Applies user deviceGroupId auth → (auth ∈ rules ↔ auth ∈ others)) :
    Wins user deviceGroupId rules winner ↔ Wins user deviceGroupId others winner := by
  have eligible : ∀ auth, Eligible user deviceGroupId rules auth ↔
      Eligible user deviceGroupId others auth := by
    intro auth
    have direct : (∃ other ∈ rules, Applies user deviceGroupId other ∧ other.isDirect = true) ↔
        ∃ other ∈ others, Applies user deviceGroupId other ∧ other.isDirect = true :=
      exists_congr fun other => by
        constructor
        · rintro ⟨listed, applies, isDirect⟩
          exact ⟨(same other applies).mp listed, applies, isDirect⟩
        · rintro ⟨listed, applies, isDirect⟩
          exact ⟨(same other applies).mpr listed, applies, isDirect⟩
    unfold Eligible
    rw [direct]
    exact and_congr_left fun rest => same auth rest.1
  unfold Wins
  simp only [eligible]

/-! ## The rules a query returns -/

/-- Every rule of the database with its profile. -/
def allRules (db : Database) : List LoadedAuthorization :=
  db.authorizations.filterMap db.joinProfile

/-- The join keeps the row and attaches a profile of the table. -/
theorem joinProfile_some {db : Database} {row : Authorization} {rule : LoadedAuthorization}
    (joined : db.joinProfile row = some rule) :
    rule.toAuthorization = row ∧ rule.privilegeProfile ∈ db.privilegeProfiles := by
  unfold Database.joinProfile at joined
  split at joined
  · cases joined
  · rename_i profile found
    obtain rfl := Option.some.inj joined
    exact ⟨rfl, List.mem_of_find?_eq_some found⟩

/-- A loaded rule is one of the database's rules. -/
theorem mem_allRules {db : Database} {rule : LoadedAuthorization} :
    rule ∈ allRules db ↔
      rule.toAuthorization ∈ db.authorizations ∧
        db.joinProfile rule.toAuthorization = some rule := by
  simp only [allRules, List.mem_filterMap]
  constructor
  · rintro ⟨row, listed, joined⟩
    obtain rfl := (joinProfile_some joined).1
    exact ⟨listed, joined⟩
  · rintro ⟨listed, joined⟩
    exact ⟨_, listed, joined⟩

/-- A query returns the rules that meet its condition, in whatever order. -/
theorem mem_selectAuthorizations {db : Database} {order : RowOrder Authorization}
    {condition : Authorization → Bool} {rule : LoadedAuthorization} :
    rule ∈ db.selectAuthorizations order condition ↔
      rule ∈ allRules db ∧ condition rule.toAuthorization = true := by
  rw [mem_allRules]
  simp only [Database.selectAuthorizations, List.mem_filterMap, (order.perm _).mem_iff,
    List.mem_filter]
  constructor
  · rintro ⟨row, ⟨listed, met⟩, joined⟩
    obtain rfl := (joinProfile_some joined).1
    exact ⟨⟨listed, joined⟩, met⟩
  · rintro ⟨⟨listed, joined⟩, met⟩
    exact ⟨_, ⟨listed, met⟩, joined⟩

end TacacsWeb.Model
