import TacacsWeb.Verif.OpenLiterals
import TacacsWeb.Verif.ScriptKeys

/-!
# The level that a profile grants

The policy ranks profiles by `tacacs_priv_lvl`, and the rendered script sets that level first. The
further attributes come after it, under names that nothing validates, and the patterns stand between
slashes of the renderer. So the level that a session gets is the one of the profile when the text
reads as its script and none of the attributes is another `priv-lvl`.
-/

namespace TacacsWeb.Verif

open TacacsWeb.Library TacacsWeb.Library.AttributeScript TacacsWeb.Model

/-- A session is permitted with the level of the profile, which is one of the sixteen levels. -/
def GrantsOwnLevel (isMatch : String → String → Bool) (profile : PrivilegeProfile) : Prop :=
  ∃ level, sessionLevel isMatch profile = some level ∧ level = profile.tacacsPrivLvl ∧
    0 ≤ level ∧ level ≤ 15

/-- The keys and the patterns leave the script as it is, and a further attribute that is named
`priv-lvl` repeats the level. -/
structure RepeatsLevel (profile : PrivilegeProfile) : Prop where
  /-- The keys are identifiers. -/
  keys : ∀ key ∈ profile.extraAvPairs.keys, IsIdentifier key
  /-- The literals of the patterns close where the renderer closes them. -/
  patterns : ∀ pattern ∈ patternsOf profile, KeepsLiteral pattern
  /-- The value of `priv-lvl` is a numeral of the level. -/
  level : ∀ value, profile.extraAvPairs.get? "priv-lvl" = some value →
    (decimal value).map Int.ofNat = some profile.tacacsPrivLvl

/-- A shell session is permitted, with the settings of the session block made in order. -/
theorem runAll_tacprofileScript (isMatch : String → String → Bool) (profile : PrivilegeProfile) :
    runAll (shellSession.meets isMatch) (tacprofileScript profile) Dict.empty =
      ⟨assigned (sessionSettings profile) Dict.empty, some .permit⟩ := by
  refine runAll_block rfl (runAll_block rfl ?_)
  rw [runAll_sets]
  exact runAll_answer .permit

/-- The attribute that a session has for the level: the entry of that name, if there is one. -/
theorem assigned_privLvl (profile : PrivilegeProfile) :
    (assigned (sessionSettings profile) Dict.empty).get? "priv-lvl" =
      some (match profile.extraAvPairs.get? "priv-lvl" with
        | none => .number profile.tacacsPrivLvl
        | some value => .quoted value) := by
  let extras := profile.extraAvPairs.items.map fun entry => (entry.1, ScriptValue.quoted entry.2)
  let first : Dict String ScriptValue := Dict.empty.set "priv-lvl" (.number profile.tacacsPrivLvl)
  have keys : extras.map Prod.fst = profile.extraAvPairs.keys := by
    simp [extras, Dict.keys]
  change (assigned extras first).get? "priv-lvl" = _
  cases given : profile.extraAvPairs.get? "priv-lvl" with
  | none =>
    have absent : "priv-lvl" ∉ extras.map Prod.fst := by
      rw [keys]
      intro listed
      obtain ⟨⟨name, value⟩, present, rfl⟩ := List.mem_map.mp listed
      rw [Dict.get?_eq_some_iff.mpr present] at given
      cases given
    rw [assigned_get?_of_not_mem first absent]
    exact Dict.get?_set_self ..
  | some value =>
    have listed : ("priv-lvl", ScriptValue.quoted value) ∈ extras :=
      List.mem_map.mpr ⟨_, Dict.get?_eq_some_iff.mp given, rfl⟩
    have distinct : (extras.map Prod.fst).Nodup := by
      rw [keys]
      exact profile.extraAvPairs.nodup
    exact assigned_get?_of_mem first distinct listed

/-- The level of a profile whose text reads as its script. -/
theorem sessionLevel_of_readable {isMatch : String → String → Bool} {profile : PrivilegeProfile}
    (readable : Readable profile) : sessionLevel isMatch profile =
      (profile.extraAvPairs.get? "priv-lvl").elim (some profile.tacacsPrivLvl) fun value =>
        (decimal value).map Int.ofNat := by
  rw [sessionLevel, readScriptText_rendered readable, Option.bind_some, runAll_tacprofileScript,
    grantedLevel]
  rw [assigned_privLvl]
  cases profile.extraAvPairs.get? "priv-lvl" with
  | none => rfl
  | some value => rfl

/-- A profile that grants a level has a text that reads as a script. -/
theorem read_of_granted {isMatch : String → String → Bool} {profile : PrivilegeProfile}
    (grants : GrantsOwnLevel isMatch profile) :
    ∃ script, readScriptText (renderTacprofile profile) = some script := by
  obtain ⟨level, granted, -⟩ := grants
  unfold sessionLevel at granted
  obtain ⟨script, read, -⟩ := Option.bind_eq_some_iff.mp granted
  exact ⟨script, read⟩

/-- A profile grants its own level exactly when it grants that level: a level is in range. -/
theorem grantsOwnLevel_iff_sessionLevel {isMatch : String → String → Bool}
    {profile : PrivilegeProfile} :
    GrantsOwnLevel isMatch profile ↔
      sessionLevel isMatch profile = some profile.tacacsPrivLvl := by
  constructor
  · rintro ⟨level, granted, rfl, -⟩
    exact granted
  · intro granted
    exact ⟨_, granted, rfl, profile.privLvlRange⟩

/-- Under a readable text, a profile grants its own level exactly when no attribute changes it. -/
theorem grantsOwnLevel_of_readable {isMatch : String → String → Bool} {profile : PrivilegeProfile}
    (readable : Readable profile) :
    GrantsOwnLevel isMatch profile ↔ ∀ value,
      profile.extraAvPairs.get? "priv-lvl" = some value →
        (decimal value).map Int.ofNat = some profile.tacacsPrivLvl := by
  rw [grantsOwnLevel_iff_sessionLevel, sessionLevel_of_readable readable]
  cases profile.extraAvPairs.get? "priv-lvl" with
  | none => simp
  | some value => simp

/-- A profile that grants its own level keeps the literals of its patterns, whatever its keys. -/
theorem keepsLiteral_of_granted {isMatch : String → String → Bool} {profile : PrivilegeProfile}
    (grants : GrantsOwnLevel isMatch profile) :
    ∀ pattern ∈ patternsOf profile, KeepsLiteral pattern := by
  obtain ⟨script, read⟩ := read_of_granted grants
  unfold readScriptText at read
  obtain ⟨found, lexed, -⟩ := Option.bind_eq_some_iff.mp read
  exact keepsLiteral_of_tokens lexed

/-- A shell session gets the level that the policy ranked by if the keys are identifiers, the
patterns keep their literals and no attribute sets `priv-lvl` to another level. The second is needed
under any keys, and all three are under keys without blanks, line ends, quotes and slashes; a key
with one of these adds statements of its own to the script. -/
theorem grantsOwnLevel_when (isMatch : String → String → Bool) (profile : PrivilegeProfile) :
    (RepeatsLevel profile → GrantsOwnLevel isMatch profile) ∧
    (GrantsOwnLevel isMatch profile →
      (∀ pattern ∈ patternsOf profile, KeepsLiteral pattern) ∧
        ((∀ key ∈ profile.extraAvPairs.keys, PlainKey key) → RepeatsLevel profile)) := by
  have readable : (∀ key ∈ profile.extraAvPairs.keys, IsIdentifier key) →
      (∀ pattern ∈ patternsOf profile, KeepsLiteral pattern) → Readable profile := by
    intro keys patterns
    exact ⟨keys, fun pattern listed => (patterns pattern listed).wellFormed,
      fun pattern listed => (patterns pattern listed).unescaped⟩
  constructor
  · intro repeats
    exact (grantsOwnLevel_of_readable (readable repeats.keys repeats.patterns)).mpr repeats.level
  · intro grants
    have patterns := keepsLiteral_of_granted grants
    refine ⟨patterns, fun plain => ?_⟩
    obtain ⟨script, read⟩ := read_of_granted grants
    have keys := isIdentifier_of_plainKeys plain read
    exact ⟨keys, patterns, (grantsOwnLevel_of_readable (readable keys patterns)).mp grants⟩

/-- A key that ends one assignment and begins another leaves the level as it is. -/
example : sessionLevel (fun _ _ => false) ((readOnly "a = 1\nset b" "c").row 1) = some 1 := by
  decide +kernel

/-- The sample profile with a harmless attribute grants its level. -/
theorem readOnly_grantsOwnLevel :
    GrantsOwnLevel (fun _ _ => false) ((readOnly "idletime" "5").row 1) := by
  apply (grantsOwnLevel_when _ _).1
  refine ⟨by decide, fun pattern listed => ?_, fun value given => ?_⟩
  · obtain ⟨wellFormed, unescaped⟩ := readOnly_pattern _ _ pattern listed
    exact ⟨wellFormed, unescaped⟩
  · cases given

/-- A further attribute named `priv-lvl` replaces the level: a profile of level one that the
validation accepts grants level fifteen. -/
theorem readOnly_not_grantsOwnLevel :
    ¬ ∀ (printable : Char → Bool) (ctx : SessionContext) (isMatch : String → String → Bool)
      (profile : PrivilegeProfile), ReachableProfile printable ctx profile →
      GrantsOwnLevel isMatch profile := by
  intro claimed
  obtain ⟨level, granted, same, -⟩ := claimed (fun _ => true)
    ⟨"ops", "admin", "local", none, none, none⟩ (fun _ _ => false)
    ((readOnly "priv-lvl" "15").row 1)
    ⟨[.create (readOnly "priv-lvl" "15")], _, rfl, by decide⟩
  have fifteen : sessionLevel (fun _ _ => false) ((readOnly "priv-lvl" "15").row 1) = some 15 := by
    decide +kernel
  rw [fifteen] at granted
  obtain rfl := Option.some.inj granted
  revert same
  decide

end TacacsWeb.Verif
