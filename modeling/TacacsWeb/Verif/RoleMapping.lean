import TacacsWeb.Library.FirstMatch
import TacacsWeb.Model.SamlRoutes

/-!
# The role that a mapping gives

The mappings are read in the order that the operator gave them, and the first one that matches
decides. So the role is the highest of those that match as long as the mappings are listed from the
highest role down, and otherwise it may be a lower one.
-/

namespace TacacsWeb.Verif

open TacacsWeb.Library TacacsWeb.Library.Text TacacsWeb.Model

/-! ## Matching -/

/-- The text up to the first comma that no backslash escapes. -/
def rawValue : List Char → Option (List Char)
  | [] => none
  | char :: text =>
    if char = ',' then some []
    else if char = '\\' then
      match text with
      | [] => none
      | escaped :: text => (rawValue text).map fun value => char :: escaped :: value
    else (rawValue text).map fun value => char :: value

/-- The common name that leads a distinguished name in lower case, as it is written there. -/
def leadingCn (dn : List Char) : Option (List Char) :=
  if "cn=".toList.isPrefixOf dn then rawValue (dn.drop 3) else none

/-- A text is written as one attribute value: its commas are escaped, and its end is not. -/
def IsRawValue (text : String) : Prop := rawValue (text.toList ++ [',']) = some text.toList

/-- But for case, a group of a mapping is one of the distinguished names or the common name that
leads one. -/
def NamesGroup (fold : CaseFolding) (groupValues : List String) (adGroup : String) : Prop :=
  ∃ dn ∈ groupValues, fold.python dn = fold.python adGroup ∨
    leadingCn (fold.python dn).toList = some (fold.python adGroup).toList

/-- But for case, a group of a mapping is one of the distinguished names, or one starts with it as
the common name. -/
def MatchesGroup (fold : CaseFolding) (groupValues : List String) (adGroup : String) : Prop :=
  ∃ dn ∈ groupValues, fold.python dn = fold.python adGroup ∨
    startsWith ("cn=" ++ fold.python adGroup ++ ",") (fold.python dn) = true

instance (fold : CaseFolding) (groupValues : List String) (adGroup : String) :
    Decidable (NamesGroup fold groupValues adGroup) := by
  unfold NamesGroup
  infer_instance

instance (fold : CaseFolding) (groupValues : List String) (adGroup : String) :
    Decidable (MatchesGroup fold groupValues adGroup) := by
  unfold MatchesGroup
  infer_instance

/-! ## The statement -/

/-- The order of the roles. -/
def roleRank : Role → Nat
  | .viewer => 0
  | .operator => 1
  | .admin => 2

/-- The mappings that match, in their order. -/
def matching (fold : CaseFolding) (groupValues : List String) (mappings : List (String × Role)) :
    List (String × Role) :=
  mappings.filter fun mapping => decide (MatchesGroup fold groupValues mapping.1)

/-- The mappings are listed from the highest role down. -/
def Descending (mappings : List (String × Role)) : Prop :=
  mappings.Pairwise fun left right => roleRank right.2 ≤ roleRank left.2

/-- The highest role among the mappings that match wins. -/
structure HighestRoleWins (fold : CaseFolding) (groupValues : List String)
    (mappings : List (String × Role)) : Prop where
  /-- There is no role exactly when no mapping names a group. -/
  unmatched : resolveRole fold groupValues mappings = none ↔
    ∀ mapping ∈ mappings, ¬NamesGroup fold groupValues mapping.1
  /-- A role is that of a mapping that names a group. -/
  mapped : ∀ role, resolveRole fold groupValues mappings = some role →
    ∃ adGroup, (adGroup, role) ∈ mappings ∧ NamesGroup fold groupValues adGroup
  /-- No such mapping has a higher one. -/
  highest : ∀ role, resolveRole fold groupValues mappings = some role →
    ∀ mapping ∈ mappings, NamesGroup fold groupValues mapping.1 →
      roleRank mapping.2 ≤ roleRank role
  /-- The order of the mappings is immaterial. -/
  reordered : ∀ other, other.Perm mappings →
    resolveRole fold groupValues other = resolveRole fold groupValues mappings
  /-- Further groups do not lower the role. -/
  more : ∀ larger role, groupValues ⊆ larger → resolveRole fold groupValues mappings = some role →
    ∃ above, resolveRole fold larger mappings = some above ∧ roleRank role ≤ roleRank above

/-- The first mapping that matches wins. -/
structure FirstRoleWins (fold : CaseFolding) (groupValues : List String)
    (mappings : List (String × Role)) : Prop where
  /-- There is no role exactly when no mapping matches. -/
  unmatched : resolveRole fold groupValues mappings = none ↔
    ∀ mapping ∈ mappings, ¬MatchesGroup fold groupValues mapping.1
  /-- A group that is written as one attribute value matches when it names a group. -/
  named : ∀ mapping ∈ mappings, IsRawValue (fold.python mapping.1) →
    (MatchesGroup fold groupValues mapping.1 ↔ NamesGroup fold groupValues mapping.1)
  /-- The role is that of the first mapping that matches. -/
  first : ∀ before adGroup role after, mappings = before ++ (adGroup, role) :: after →
    (∀ mapping ∈ before, ¬MatchesGroup fold groupValues mapping.1) →
    MatchesGroup fold groupValues adGroup → resolveRole fold groupValues mappings = some role
  /-- Only the order of the mappings that match is material. -/
  reordered : ∀ other, matching fold groupValues other = matching fold groupValues mappings →
    resolveRole fold groupValues other = resolveRole fold groupValues mappings
  /-- Further groups do not take a role away. -/
  more : ∀ larger, groupValues ⊆ larger → resolveRole fold groupValues mappings ≠ none →
    resolveRole fold larger mappings ≠ none
  /-- In mappings listed from the highest role down, the highest role that matches wins, and further
  groups do not lower it. -/
  descending : Descending mappings → ∀ role, resolveRole fold groupValues mappings = some role →
    (∀ mapping ∈ mappings, MatchesGroup fold groupValues mapping.1 →
      roleRank mapping.2 ≤ roleRank role) ∧
    ∀ larger, groupValues ⊆ larger →
      ∃ above, resolveRole fold larger mappings = some above ∧ roleRank role ≤ roleRank above

/-! ## Common names -/

/-- A comma ends the value. -/
theorem rawValue_comma (text : List Char) : rawValue (',' :: text) = some [] := by
  rw [rawValue.eq_def]
  rfl

/-- A backslash takes the next character into the value. -/
theorem rawValue_escape (escaped : Char) (text : List Char) :
    rawValue ('\\' :: escaped :: text) =
      (rawValue text).map fun value => '\\' :: escaped :: value := by
  simp [rawValue]

/-- Any other character is part of the value. -/
theorem rawValue_cons {char : Char} (plain : char ≠ ',') (ordinary : char ≠ '\\')
    (text : List Char) :
    rawValue (char :: text) = (rawValue text).map fun value => char :: value := by
  rw [rawValue.eq_def]
  simp only [if_neg plain, if_neg ordinary]

/-- What a value is read from starts with it and a comma, and the value would be read from these
alone. -/
theorem rawValue_eq_some {text value : List Char} (read : rawValue text = some value) :
    (∃ rest, text = value ++ ',' :: rest) ∧ rawValue (value ++ [',']) = some value := by
  fun_induction rawValue text generalizing value with
  | case1 => cases read
  | case2 text =>
    cases read
    exact ⟨⟨text, rfl⟩, rawValue_comma []⟩
  | case3 => cases read
  | case4 escaped text _ ih =>
    obtain ⟨tail, readTail, whole⟩ := Option.map_eq_some_iff.mp read
    obtain ⟨found, again⟩ := ih readTail
    obtain ⟨rest, same⟩ := found
    rw [← whole, same]
    refine ⟨⟨rest, rfl⟩, ?_⟩
    rw [List.cons_append, List.cons_append, rawValue_escape, again]
    rfl
  | case5 char text plain ordinary ih =>
    obtain ⟨tail, readTail, whole⟩ := Option.map_eq_some_iff.mp read
    obtain ⟨found, again⟩ := ih readTail
    obtain ⟨rest, same⟩ := found
    rw [← whole, same]
    refine ⟨⟨rest, rfl⟩, ?_⟩
    rw [List.cons_append, rawValue_cons plain ordinary, again]
    rfl

/-- A value is read no matter what follows. -/
theorem rawValue_append {text value : List Char} (read : rawValue text = some value)
    (rest : List Char) : rawValue (text ++ rest) = some value := by
  fun_induction rawValue text generalizing value with
  | case1 => cases read
  | case2 text =>
    cases read
    exact rawValue_comma (text ++ rest)
  | case3 => cases read
  | case4 escaped text _ ih =>
    obtain ⟨tail, readTail, whole⟩ := Option.map_eq_some_iff.mp read
    rw [List.cons_append, List.cons_append, rawValue_escape, ih readTail, ← whole]
    rfl
  | case5 char text plain ordinary ih =>
    obtain ⟨tail, readTail, whole⟩ := Option.map_eq_some_iff.mp read
    rw [List.cons_append, rawValue_cons plain ordinary, ih readTail, ← whole]
    rfl

/-- A name in lower case starts with a common name exactly when it leads it, if the common name is
written as one value. -/
theorem startsWith_cn_iff {adGroup dn : String} (value : IsRawValue adGroup) :
    startsWith ("cn=" ++ adGroup ++ ",") dn = true ↔ leadingCn dn.toList = some adGroup.toList := by
  unfold startsWith leadingCn
  rw [List.isPrefixOf_iff_prefix, String.toList_append, String.toList_append]
  constructor
  · intro starts
    obtain ⟨rest, whole⟩ := starts
    have read := rawValue_append value rest
    rw [← whole, if_pos (by simp [List.isPrefixOf])]
    simpa using read
  · intro leads
    split at leads
    · rename_i starts
      obtain ⟨tail, whole⟩ := List.isPrefixOf_iff_prefix.mp starts
      rw [← whole] at leads ⊢
      obtain ⟨rest, same⟩ := (rawValue_eq_some leads).1
      have behind : tail = adGroup.toList ++ ',' :: rest := same
      rw [behind]
      exact ⟨rest, by simp⟩
    · cases leads

/-! ## The mappings -/

section Mappings

variable {fold : CaseFolding} {groupValues larger : List String}
  {mappings : List (String × Role)}

/-- The role is that of the first mapping that matches. -/
theorem resolveRole_eq_find (fold : CaseFolding) (groupValues : List String)
    (mappings : List (String × Role)) :
    resolveRole fold groupValues mappings =
      (mappings.find? fun mapping =>
        decide (MatchesGroup fold groupValues mapping.1)).map Prod.snd := by
  induction mappings with
  | nil => rfl
  | cons mapping mappings ih =>
    obtain ⟨adGroup, role⟩ := mapping
    have split : MatchesGroup fold groupValues adGroup ↔
        fold.python adGroup ∈ groupValues.map fold.python ∨
          (groupValues.map fold.python).any
            (startsWith ("cn=" ++ fold.python adGroup ++ ",")) = true := by
      simp only [MatchesGroup, List.mem_map, List.any_eq_true, exists_exists_and_eq_and,
        and_or_left, exists_or]
    by_cases hit : MatchesGroup fold groupValues adGroup
    · rw [List.find?_cons_of_pos (by simpa using hit), resolveRole]
      cases split.mp hit with
      | inl dn => simp only [if_pos dn, Option.map_some]
      | inr cn =>
        simp only [if_pos cn, Option.map_some, ite_self]
    · have miss := fun either => hit (split.mpr either)
      rw [List.find?_cons_of_neg (by simpa using hit), ← ih, resolveRole]
      simp only [if_neg fun dn => miss (.inl dn), if_neg fun cn => miss (.inr cn)]

/-- A mapping that matches goes on matching with further groups. -/
theorem MatchesGroup.mono (more : groupValues ⊆ larger) {adGroup : String}
    (hit : MatchesGroup fold groupValues adGroup) : MatchesGroup fold larger adGroup := by
  obtain ⟨dn, listed, either⟩ := hit
  exact ⟨dn, more listed, either⟩

/-- There is no role exactly when no mapping matches. -/
theorem resolveRole_eq_none :
    resolveRole fold groupValues mappings = none ↔
      ∀ mapping ∈ mappings, ¬MatchesGroup fold groupValues mapping.1 := by
  rw [resolveRole_eq_find, Option.map_eq_none_iff, List.find?_eq_none]
  simp only [decide_eq_true_eq]

/-- A group that is written as one attribute value matches when it names a group. -/
theorem matchesGroup_iff_names {adGroup : String} (value : IsRawValue (fold.python adGroup)) :
    MatchesGroup fold groupValues adGroup ↔ NamesGroup fold groupValues adGroup := by
  unfold MatchesGroup NamesGroup
  simp only [startsWith_cn_iff value]

/-- In mappings listed from the highest role down, the role is not lower with further groups. -/
theorem resolveRole_mono (descends : Descending mappings) (more : groupValues ⊆ larger)
    {role : Role} (resolved : resolveRole fold groupValues mappings = some role) :
    ∃ above, resolveRole fold larger mappings = some above ∧ roleRank role ≤ roleRank above := by
  rw [resolveRole_eq_find] at resolved
  obtain ⟨mapping, first, same⟩ := Option.map_eq_some_iff.mp resolved
  have widens : ∀ entry : String × Role,
      decide (MatchesGroup fold groupValues entry.1) = true →
        decide (MatchesGroup fold larger entry.1) = true := by
    intro entry hit
    exact decide_eq_true (MatchesGroup.mono more (of_decide_eq_true hit))
  obtain ⟨above, found, below⟩ :=
    find?_widen (fun entry : String × Role => roleRank entry.2) descends widens first
  refine ⟨above.2, ?_, same ▸ below⟩
  rw [resolveRole_eq_find, found]
  rfl

/-- The first mapping that matches decides the role. -/
theorem resolveRole_first (fold : CaseFolding) (groupValues : List String)
    (mappings : List (String × Role)) : FirstRoleWins fold groupValues mappings where
  unmatched := resolveRole_eq_none
  named := fun mapping _ value => matchesGroup_iff_names value
  first := by
    intro before adGroup role after listed missed hit
    rw [resolveRole_eq_find, listed, find?_append_cons]
    · rfl
    · exact fun mapping earlier => decide_eq_false (missed mapping earlier)
    · exact decide_eq_true hit
  reordered := by
    intro other same
    rw [resolveRole_eq_find, resolveRole_eq_find, find?_eq_of_filter same]
  more := by
    intro larger more resolved absent
    have missed := resolveRole_eq_none.mp absent
    apply resolved
    apply resolveRole_eq_none.mpr
    exact fun mapping listed hit => missed mapping listed (hit.mono more)
  descending := by
    intro descends role resolved
    refine ⟨fun mapping listed hit => ?_, fun larger more =>
      resolveRole_mono descends more resolved⟩
    rw [resolveRole_eq_find] at resolved
    obtain ⟨found, first, same⟩ := Option.map_eq_some_iff.mp resolved
    have below := le_of_find? (fun entry : String × Role => roleRank entry.2) descends first
      listed (decide_eq_true hit)
    exact same ▸ below

end Mappings

/-- A viewer mapping before an admin mapping hides it. -/
theorem viewerFirst_not_highest :
    ¬∀ (groupValues : List String) (mappings : List (String × Role)),
      HighestRoleWins .ascii groupValues mappings := by
  intro claimed
  have wins := claimed ["CN=Ops,DC=corp", "CN=Admins,DC=corp"]
    [("Ops", .viewer), ("Admins", .admin)]
  have lower := wins.highest .viewer (by decide +kernel) ("Admins", .admin) (by decide)
    (by decide +kernel)
  revert lower
  decide

end TacacsWeb.Verif
