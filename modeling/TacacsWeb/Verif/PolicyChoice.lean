import TacacsWeb.Verif.PolicyAgreement

/-!
# The choice of the policy

`evaluate_for_user` against the ground rules that its module states: a direct rule beats every
group rule, then the highest level wins, then the lowest row id. The losers are listed once each,
and neither they nor the winner depend on the order of the rows.
-/

namespace TacacsWeb.Verif

open TacacsWeb.Model

/-- A rule competes when it applies and no direct rule shuts it out. -/
def Competes (user : LoadedUser) (deviceGroupId : Nat) (rules : List LoadedAuthorization)
    (rule : LoadedAuthorization) : Prop :=
  rule ∈ rules ∧ Applies user deviceGroupId rule ∧
    (rule.isDirect = true ∨
      ∀ other ∈ rules, Applies user deviceGroupId other → other.isDirect = false)

/-- What the ground rules say of an outcome. -/
structure FollowsGroundRules (user : LoadedUser) (deviceGroupId : Nat)
    (rules : List LoadedAuthorization) (outcome : EffectiveAuthorization) : Prop where
  /-- Nobody wins exactly when no rule applies. -/
  unanswered : outcome.winning = none ↔ ∀ rule ∈ rules, ¬Applies user deviceGroupId rule
  /-- The winner is a row of the list that applies. -/
  winner_applies : ∀ winner ∈ outcome.winning, winner ∈ rules ∧ Applies user deviceGroupId winner
  /-- The winner is direct whenever a direct row applies. -/
  winner_direct : ∀ winner ∈ outcome.winning, ∀ other ∈ rules,
    Applies user deviceGroupId other → other.isDirect = true → winner.isDirect = true
  /-- No row that competes has a higher level. -/
  winner_highest : ∀ winner ∈ outcome.winning, ∀ other, Competes user deviceGroupId rules other →
    other.privilegeProfile.tacacsPrivLvl ≤ winner.privilegeProfile.tacacsPrivLvl
  /-- No row that competes at the level of the winner has a lower id. -/
  winner_least : ∀ winner ∈ outcome.winning, ∀ other, Competes user deviceGroupId rules other →
    other.privilegeProfile.tacacsPrivLvl = winner.privilegeProfile.tacacsPrivLvl →
      winner.id ≤ other.id
  /-- No row is overridden twice. -/
  overridden_once : outcome.overridden.Nodup
  /-- Overridden are the rows that apply, but for the winner. -/
  overridden_iff : ∀ rule, rule ∈ outcome.overridden ↔
    rule ∈ rules ∧ Applies user deviceGroupId rule ∧ outcome.winning ≠ some rule

section Choice

variable {user : LoadedUser} {deviceGroupId : Nat} {rules : List LoadedAuthorization}

/-- Competing is being eligible. -/
theorem competes_iff_eligible {rule : LoadedAuthorization} :
    Competes user deviceGroupId rules rule ↔ Eligible user deviceGroupId rules rule := by
  unfold Competes Eligible
  apply and_congr_right
  intro listed
  apply and_congr_right
  intro applies
  constructor
  · intro competes found
    cases competes with
    | inl direct => exact direct
    | inr none =>
      obtain ⟨other, present, also, direct⟩ := found
      rw [none other present also] at direct
      cases direct
  · intro forced
    by_cases found : ∃ other ∈ rules, Applies user deviceGroupId other ∧ other.isDirect = true
    · exact .inl (forced found)
    · right
      intro other present also
      have notDirect : ¬other.isDirect = true := fun direct => found ⟨other, present, also, direct⟩
      simpa using notDirect

/-- Rows with distinct ids are told apart by them. -/
theorem eq_of_id (distinct : (rules.map fun rule => rule.id).Nodup)
    {first second : LoadedAuthorization} (inFirst : first ∈ rules) (inSecond : second ∈ rules)
    (same : first.id = second.id) : first = second :=
  List.inj_on_of_nodup_map distinct inFirst inSecond same

/-- What is listed as overridden: the candidates, possibly sorted, without the winner. -/
theorem overridden_perm {winner : LoadedAuthorization}
    (won : (evaluateForUser user deviceGroupId rules).winning = some winner) :
    (evaluateForUser user deviceGroupId rules).overridden.Perm
      ((rules.filter (isCandidate user deviceGroupId)).filter fun rule => rule.id ≠ winner.id) := by
  simp only [evaluateForUser] at won ⊢
  cases pool : poolOf (rules.filter (isCandidate user deviceGroupId)) with
  | nil =>
    rw [pool] at won
    cases won
  | cons first rest =>
    rw [pool] at won
    have same : first = winner := Option.some.inj won
    simp only [same]
    split
    · -- Without a direct row the candidates themselves were sorted.
      rename_i none
      have sorted : (first :: rest).Perm (rules.filter (isCandidate user deviceGroupId)) := by
        rw [← pool, poolOf, if_pos none]
        exact List.perm_insertionSort ranksBefore _
      rw [same] at sorted
      exact sorted.filter _
    · exact List.Perm.refl _

/-- Nothing is overridden where nobody wins. -/
theorem overridden_of_none (nobody : (evaluateForUser user deviceGroupId rules).winning = none) :
    (evaluateForUser user deviceGroupId rules).overridden = [] := by
  simp only [evaluateForUser] at nobody ⊢
  cases pool : poolOf (rules.filter (isCandidate user deviceGroupId)) with
  | nil => rfl
  | cons first rest =>
    rw [pool] at nobody
    cases nobody

/-- The rows that are overridden. -/
theorem mem_overridden (distinct : (rules.map fun rule => rule.id).Nodup)
    (rule : LoadedAuthorization) :
    rule ∈ (evaluateForUser user deviceGroupId rules).overridden ↔
      rule ∈ rules ∧ Applies user deviceGroupId rule ∧
        (evaluateForUser user deviceGroupId rules).winning ≠ some rule := by
  cases won : (evaluateForUser user deviceGroupId rules).winning with
  | none =>
    have nothing := evaluateForUser_none.mp won
    rw [overridden_of_none won]
    constructor
    · intro listed
      cases listed
    · intro found
      exact absurd found.2.1 (nothing rule found.1)
  | some winner =>
    have present := (evaluateForUser_wins won).1.1
    rw [(overridden_perm won).mem_iff, List.mem_filter, List.mem_filter, isCandidate_iff, and_assoc]
    apply and_congr_right
    intro listed
    apply and_congr_right
    intro applies
    rw [decide_eq_true_eq]
    constructor
    · intro different same
      exact different (congrArg (fun found => found.id) (Option.some.inj same).symm)
    · intro different same
      exact different (congrArg some (eq_of_id distinct present listed same.symm))

/-- For every list of rows with distinct ids, the outcome of the policy is the one that the ground
rules name, and every order of the rows gives the same winner and the same overridden rows. -/
theorem evaluateForUser_followsGroundRules (user : LoadedUser) (deviceGroupId : Nat)
    (rules : List LoadedAuthorization) (distinct : (rules.map fun rule => rule.id).Nodup) :
    FollowsGroundRules user deviceGroupId rules (evaluateForUser user deviceGroupId rules) ∧
      ∀ listed : List LoadedAuthorization, listed.Perm rules →
        (evaluateForUser user deviceGroupId listed).winning =
            (evaluateForUser user deviceGroupId rules).winning ∧
          (evaluateForUser user deviceGroupId listed).overridden.Perm
            (evaluateForUser user deviceGroupId rules).overridden := by
  have once : ∀ listed : List LoadedAuthorization, (listed.map fun rule => rule.id).Nodup →
      (evaluateForUser user deviceGroupId listed).overridden.Nodup := by
    intro listed separate
    cases won : (evaluateForUser user deviceGroupId listed).winning with
    | none =>
      rw [overridden_of_none won]
      exact List.nodup_nil
    | some winner =>
      rw [(overridden_perm won).nodup_iff]
      exact ((List.Nodup.of_map _ separate).filter _).filter _
  constructor
  · exact {
      unanswered := evaluateForUser_none
      winner_applies := fun winner won => by
        have wins := evaluateForUser_wins won
        exact ⟨wins.1.1, wins.1.2.1⟩
      winner_direct := fun winner won other listed applies direct => by
        have wins := evaluateForUser_wins won
        exact wins.1.2.2 ⟨other, listed, applies, direct⟩
      winner_highest := fun winner won other competes => by
        have ranks := (evaluateForUser_wins won).2 other (competes_iff_eligible.mp competes)
        unfold ranksBefore at ranks
        omega
      winner_least := fun winner won other competes same => by
        have ranks := (evaluateForUser_wins won).2 other (competes_iff_eligible.mp competes)
        unfold ranksBefore at ranks
        omega
      overridden_once := once rules distinct
      overridden_iff := mem_overridden distinct }
  · intro listed permuted
    have separate : (listed.map fun rule => rule.id).Nodup :=
      (permuted.map fun rule => rule.id).nodup_iff.mpr distinct
    have winner : (evaluateForUser user deviceGroupId listed).winning =
        (evaluateForUser user deviceGroupId rules).winning := by
      apply Option.ext
      intro rule
      rw [evaluateForUser_winning fun a here b there => eq_of_id separate here there,
        evaluateForUser_winning fun a here b there => eq_of_id distinct here there]
      exact wins_congr fun auth _ => permuted.mem_iff
    refine ⟨winner, ?_⟩
    rw [List.perm_ext_iff_of_nodup (once listed separate) (once rules distinct)]
    intro rule
    rw [mem_overridden separate, mem_overridden distinct, winner, permuted.mem_iff]

end Choice

/-- The policy on the rules of the sample, where two group rules tie below a direct one. -/
theorem evaluateForUser_followsGroundRules_sample :
    ∃ user ∈ sampleDatabase.identity.users,
      ((evaluateForUser (sampleDatabase.identity.load user) 1 (allRules sampleDatabase)).winning.map
        fun winner => winner.id) = some 3 ∧
      FollowsGroundRules (sampleDatabase.identity.load user) 1 (allRules sampleDatabase)
        (evaluateForUser (sampleDatabase.identity.load user) 1 (allRules sampleDatabase)) :=
  ⟨⟨1, "jan", some "g1", "CN=jan", none, none, true, none⟩, by decide, by decide,
    (evaluateForUser_followsGroundRules _ 1 (allRules sampleDatabase) (by decide)).1⟩

end TacacsWeb.Verif
