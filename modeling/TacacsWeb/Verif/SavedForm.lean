import TacacsWeb.Model.ProfileForm
import TacacsWeb.Verif.AdminAtomicity

/-!
# Saving the profile editor

What the editor shows of a profile after it was saved is what was submitted, with two exceptions. A
description that is cleared goes out as `null`, which the PATCH takes for no change, and a key that
reads `__proto__` never becomes a property.
-/

namespace TacacsWeb.Verif

open TacacsWeb.Library TacacsWeb.Library.UnitOfWork TacacsWeb.Model

/-! ## The statement -/

/-- The rows that count: keys trimmed, blank ones dropped. -/
def keyedRows (rows : List AvPairRow) : List (String × String) :=
  (rows.map fun row => (jsTrim row.key, row.value)).filter fun pair => pair.1 ≠ ""

/-- The values that are shown are those that were submitted, with the name and the description
trimmed, and of the rows that count the last one for every key, in any order. -/
structure ShowsSubmitted (shown values : FormValues) : Prop where
  /-- The name. -/
  name : shown.name = jsTrim values.name
  /-- The level. -/
  tacacsPrivLvl : shown.tacacsPrivLvl = values.tacacsPrivLvl
  /-- The permitted commands. -/
  permitCommandsRegex : shown.permitCommandsRegex = values.permitCommandsRegex
  /-- The denied commands. -/
  denyCommandsRegex : shown.denyCommandsRegex = values.denyCommandsRegex
  /-- Every key has one row. -/
  keysOnce : (shown.extraAvPairs.map AvPairRow.key).Nodup
  /-- The row has the last value of the key. -/
  extraAvPairs : ∀ key value, AvPairRow.mk key value ∈ shown.extraAvPairs ↔
    Dict.lastValue key (keyedRows values.extraAvPairs) = some value
  /-- The description. -/
  description : shown.description = jsTrim values.description

/-- Values that trimming leaves alone. -/
structure Trimmed (values : FormValues) : Prop where
  /-- The name. -/
  name : jsTrim values.name = values.name
  /-- The keys. -/
  keys : ∀ row ∈ values.extraAvPairs, jsTrim row.key = row.key ∧ row.key ≠ ""
  /-- The description. -/
  description : jsTrim values.description = values.description

/-- Two rows say the same. -/
structure SameProfile (first second : PrivilegeProfile) : Prop where
  /-- The id. -/
  id : first.id = second.id
  /-- The name. -/
  name : first.name = second.name
  /-- The level. -/
  tacacsPrivLvl : first.tacacsPrivLvl = second.tacacsPrivLvl
  /-- The permitted commands. -/
  permitCommandsRegex : first.permitCommandsRegex = second.permitCommandsRegex
  /-- The denied commands. -/
  denyCommandsRegex : first.denyCommandsRegex = second.denyCommandsRegex
  /-- The further attributes, in any order. -/
  extraAvPairs : ∀ key, first.extraAvPairs.get? key = second.extraAvPairs.get? key
  /-- The description. -/
  description : first.description = second.description

/-- Saving the values for a row has saved what the editor shows. -/
structure SavesShown (row : PrivilegeProfile) (values : FormValues) (returned : PrivilegeProfile) :
    Prop where
  /-- The editor shows of the returned row what was submitted. -/
  shown : ShowsSubmitted (toFormValues (some returned)) values
  /-- A description that was cleared is gone. -/
  cleared : jsTrim values.description = "" → returned.description.getD "" = ""
  /-- An unmodified form, with nothing to trim, changes nothing. -/
  unmodified : values = toFormValues (some row) → Trimmed values → SameProfile returned row

/-- The description is not cleared, and no row has the key that an object does not take. -/
def Storable (row : PrivilegeProfile) (values : FormValues) : Prop :=
  (jsTrim values.description = "" → row.description.getD "" = "") ∧
    ∀ pair ∈ values.extraAvPairs, jsTrim pair.key ≠ "__proto__"

/-- The row that `session.get` and `session.refresh` read. -/
def storedProfile (tables : AdminTables) (profileId : Int) : Option PrivilegeProfile :=
  tables.privilegeProfiles.find? fun profile => (profile.id : Int) = profileId

/-! ## The pairs -/

/-- The loop of the form makes the assignments of the rows that count, but those of the key that an
object does not take. -/
theorem toPairs_eq (rows : List AvPairRow) :
    toPairs rows = Dict.ofList ((keyedRows rows).filter fun pair => pair.1 ≠ "__proto__") := by
  have loop : ∀ object : Dict String String,
      rows.foldl (fun pairs row =>
        let key := jsTrim row.key
        if key = "" then pairs else setProperty pairs key row.value) object =
        ((keyedRows rows).filter fun pair => pair.1 ≠ "__proto__").foldl
          (fun dict entry => dict.set entry.1 entry.2) object := by
    induction rows with
    | nil => exact fun _ => rfl
    | cons row rows ih =>
      intro object
      rw [List.foldl_cons, ih, keyedRows, keyedRows, List.map_cons]
      by_cases blank : jsTrim row.key = ""
      · rw [List.filter_cons_of_neg (by simp [blank])]
        simp only [blank, if_true]
      · rw [List.filter_cons_of_pos (by simp [blank])]
        by_cases proto : jsTrim row.key = "__proto__"
        · rw [List.filter_cons_of_neg (by simp [proto])]
          simp only [setProperty, proto, if_true]
          rfl
        · rw [List.filter_cons_of_pos (by simp [proto]), List.foldl_cons]
          simp only [setProperty, blank, proto, if_false]
  exact loop ∅

/-- The key that an object does not take is not among the pairs. -/
theorem toPairs_proto (rows : List AvPairRow) : (toPairs rows).get? "__proto__" = none := by
  rw [toPairs_eq, Dict.get?_ofList]
  cases last : Dict.lastValue "__proto__"
      ((keyedRows rows).filter fun pair => pair.1 ≠ "__proto__") with
  | none => rfl
  | some value =>
    have kept := (List.mem_filter.mp (Dict.mem_of_lastValue last)).2
    exact absurd rfl (of_decide_eq_true kept)

/-- Without that key, every key has its last value. -/
theorem toPairs_get? {rows : List AvPairRow} (usual : ∀ row ∈ rows, jsTrim row.key ≠ "__proto__")
    (key : String) : (toPairs rows).get? key = Dict.lastValue key (keyedRows rows) := by
  have all : (keyedRows rows).filter (fun pair => pair.1 ≠ "__proto__") = keyedRows rows := by
    apply List.filter_eq_self.mpr
    intro pair listed
    obtain ⟨row, present, same⟩ := List.mem_map.mp (List.mem_filter.mp listed).1
    apply decide_eq_true
    rw [← same]
    exact usual row present
  rw [toPairs_eq, all, Dict.get?_ofList]

/-- The rows that are shown of some pairs. -/
theorem mem_shown {profile : PrivilegeProfile} {key value : String} :
    AvPairRow.mk key value ∈ (toFormValues (some profile)).extraAvPairs ↔
      profile.extraAvPairs.get? key = some value := by
  rw [Dict.get?_eq_some_iff]
  constructor
  · intro listed
    obtain ⟨entry, present, same⟩ := List.mem_map.mp listed
    cases same
    exact present
  · intro present
    exact List.mem_map.mpr ⟨(key, value), present, rfl⟩

/-- Every key is shown once. -/
theorem shown_nodup (profile : PrivilegeProfile) :
    ((toFormValues (some profile)).extraAvPairs.map AvPairRow.key).Nodup := by
  have keys : (toFormValues (some profile)).extraAvPairs.map AvPairRow.key =
      profile.extraAvPairs.items.map Prod.fst := by
    simp [toFormValues, Function.comp_def]
  rw [keys]
  exact profile.extraAvPairs.nodup

/-! ## The request -/

section Request

variable {printable : Char → Bool} {ctx : SessionContext} {tables : AdminTables}
  {sequences : AdminSequences} {plan : List Outcome} {row : PrivilegeProfile} {profileId : Int}

/-- A row is found by its id after it was replaced. -/
theorem find?_replaceRow {profiles : List PrivilegeProfile} {edited : PrivilegeProfile}
    (same : edited.id = row.id)
    (found : profiles.find? (fun profile => (profile.id : Int) = profileId) = some row) :
    (replaceRow PrivilegeProfile.id edited profiles).find?
      (fun profile => (profile.id : Int) = profileId) = some edited := by
  induction profiles with
  | nil => cases found
  | cons first others ih =>
    have named : (row.id : Int) = profileId := by simpa using List.find?_some found
    by_cases here : (first.id : Int) = profileId
    · have one : first.id = edited.id := by omega
      have key : (edited.id : Int) = profileId := by omega
      rw [replaceRow, List.map_cons, if_pos one, List.find?_cons_of_pos (by simpa using key)]
    · have other : ¬first.id = edited.id := by omega
      rw [List.find?_cons_of_neg (by simpa using here)] at found
      rw [replaceRow, List.map_cons, if_neg other, List.find?_cons_of_neg (by simpa using here)]
      exact ih found

/-- A row that is there is loaded, when its id can be sent to the database. -/
theorem sessionGet_found {Row : Type} {rows : List Row} {key : Row → Nat} {id : Int}
    {missing : AdminScript} {found : Row → AdminScript} {loaded : Row}
    (present : rows.find? (fun row => (key row : Int) = id) = some loaded) :
    sessionGet rows key id missing found =
      if integerFits (some id) then found loaded else .raise := by
  rw [sessionGet, present]

/-- A PATCH that answers 200 has stored the edited row. -/
theorem update_stored {payload : PrivilegeProfileUpdate}
    (stored : storedProfile tables profileId = some row)
    (accepted : ((updatePrivilegeProfileHandler printable ctx profileId payload).run adminEngine
      (.start tables sequences) plan).2 = .answered (.response 200)) :
    storedProfile ((updatePrivilegeProfileHandler printable ctx profileId payload).run adminEngine
      (.start tables sequences) plan).1.durable.tables profileId = some (payload.edit row) := by
  have ensured : (updatePrivilegeProfileHandler printable ctx profileId payload).Ensures adminEngine
      (fun version ending => ending = .answered (.response 200) →
        storedProfile version.tables profileId = some (payload.edit row))
      (.start tables sequences) := by
    refine ⟨nofun, nofun, ?_⟩
    have loads := fun found => @sessionGet_found PrivilegeProfile tables.privilegeProfiles
      PrivilegeProfile.id profileId (refuse 404 none) found row stored
    show Script.Ensures adminEngine _ (sessionGet tables.privilegeProfiles _ _ _ _) _
    rw [loads]
    split
    · apply flushThenAudit_ensures nofun nofun nofun
      intro after rowId moved taken
      refine ⟨nofun, fun _ => ?_⟩
      obtain ⟨_, written, _⟩ := statement_eq_ok (congrArg Prod.fst taken)
      rw [written]
      have same : (payload.edit row).id = row.id := rfl
      exact find?_replaceRow same stored
    · exact nofun
  exact Script.run_ensures ensured plan accepted

/-- What a form that goes out stores. -/
theorem payload_edit {values : FormValues} {payload : PrivilegeProfileUpdate}
    (valid : (toInput values).payload = some payload) (row : PrivilegeProfile) :
    (payload.edit row).name = jsTrim values.name ∧
      (payload.edit row).tacacsPrivLvl = values.tacacsPrivLvl ∧
      (payload.edit row).permitCommandsRegex = values.permitCommandsRegex ∧
      (payload.edit row).denyCommandsRegex = values.denyCommandsRegex ∧
      (payload.edit row).extraAvPairs = toPairs values.extraAvPairs ∧
      (payload.edit row).description =
        if jsTrim values.description = "" then row.description
        else some (jsTrim values.description) := by
  unfold PrivilegeProfileInput.payload at valid
  split at valid
  · obtain rfl := Option.some.inj valid
    refine ⟨rfl, rfl, rfl, rfl, rfl, ?_⟩
    simp only [PrivilegeProfileUpdate.edit, toInput]
    split <;> rfl
  · cases valid

/-- A form goes out as the PATCH of its values. -/
theorem submitForm_script {values : FormValues} {script : AdminScript}
    (submitted : submitForm printable ctx profileId values = some script) :
    ∃ payload, (toInput values).payload = some payload ∧
      script = updatePrivilegeProfileHandler printable ctx profileId payload := by
  unfold submitForm at submitted
  split at submitted
  · obtain ⟨payload, valid, same⟩ := Option.map_eq_some_iff.mp submitted
    exact ⟨payload, valid, same.symm⟩
  · cases submitted

end Request

/-- The rows of an unmodified form with nothing to trim are the pairs of the profile. -/
theorem keyedRows_own {row : PrivilegeProfile} {values : FormValues}
    (own : values = toFormValues (some row)) (asIs : Trimmed values) :
    keyedRows values.extraAvPairs = row.extraAvPairs.items := by
  have pairs : values.extraAvPairs = row.extraAvPairs.items.map fun entry =>
      ⟨entry.1, entry.2⟩ := by rw [own, toFormValues]
  have plain : ∀ entry ∈ row.extraAvPairs.items, jsTrim entry.1 = entry.1 ∧ entry.1 ≠ "" := by
    intro entry listed
    apply asIs.keys ⟨entry.1, entry.2⟩
    rw [pairs]
    exact List.mem_map_of_mem listed
  have mapped : (row.extraAvPairs.items.map fun entry => (jsTrim entry.1, entry.2)) =
      row.extraAvPairs.items.map id := by
    apply List.map_congr_left
    intro entry listed
    rw [(plain entry listed).1]
    rfl
  rw [keyedRows, pairs, List.map_map]
  show (row.extraAvPairs.items.map fun entry => (jsTrim entry.1, entry.2)).filter _ = _
  rw [mapped, List.map_id]
  apply List.filter_eq_self.mpr
  intro entry listed
  exact decide_eq_true (plain entry listed).2

/-! ## The result -/

/-- What is stored shows what was submitted exactly when it can be stored. -/
theorem savesShown_edit {values : FormValues} {payload : PrivilegeProfileUpdate}
    (valid : (toInput values).payload = some payload) (row : PrivilegeProfile) :
    SavesShown row values (payload.edit row) ↔ Storable row values := by
  obtain ⟨name, level, permitted, denied, pairs, description⟩ := payload_edit valid row
  constructor
  · intro saved
    constructor
    · intro cleared
      have gone := saved.cleared cleared
      rw [description, if_pos cleared] at gone
      exact gone
    · intro pair listed proto
      have counts : ("__proto__", pair.value) ∈ keyedRows values.extraAvPairs := by
        apply List.mem_filter.mpr
        exact ⟨List.mem_map.mpr ⟨pair, listed, by rw [proto]⟩, rfl⟩
      obtain ⟨last, lastOne⟩ := Dict.exists_lastValue counts
      have shown := mem_shown.mp ((saved.shown.extraAvPairs "__proto__" last).mpr lastOne)
      rw [pairs, toPairs_proto] at shown
      cases shown
  · intro storable
    have trimmed : (payload.edit row).description.getD "" = jsTrim values.description := by
      rw [description]
      by_cases cleared : jsTrim values.description = ""
      · rw [if_pos cleared, storable.1 cleared, cleared]
      · rw [if_neg cleared, Option.getD_some]
    have lastValues := toPairs_get? storable.2
    constructor
    · refine ⟨name, level, permitted, denied, shown_nodup _, ?_, trimmed⟩
      intro key value
      rw [mem_shown, pairs, lastValues]
    · intro cleared
      rw [trimmed, cleared]
    · intro own asIs
      have rows := keyedRows_own own asIs
      have text : values.description = row.description.getD "" := by rw [own, toFormValues]
      refine ⟨rfl, ?_, ?_, ?_, ?_, ?_, ?_⟩
      · rw [name, asIs.name, own, toFormValues]
      · rw [level, own, toFormValues]
      · rw [permitted, own, toFormValues]
      · rw [denied, own, toFormValues]
      · intro key
        rw [pairs, lastValues, rows, Dict.lastValue_items]
      · rw [description, asIs.description, text]
        cases row.description with
        | none => rfl
        | some given =>
          rw [Option.getD_some]
          split
          · rfl
          · rfl

/-- After a save that is answered 200, the editor shows of the returned row what was submitted
exactly when no description was cleared and no row has the key that an object does not take. -/
theorem savesShown_iff {printable : Char → Bool} {ctx : SessionContext} {tables : AdminTables}
    {sequences : AdminSequences} {plan : List Outcome} {profileId : Int} {row : PrivilegeProfile}
    {values : FormValues} {script : AdminScript}
    (stored : storedProfile tables profileId = some row)
    (submitted : submitForm printable ctx profileId values = some script)
    (accepted : (script.run adminEngine (.start tables sequences) plan).2 =
      .answered (.response 200)) :
    ∃ returned,
      storedProfile (script.run adminEngine (.start tables sequences) plan).1.durable.tables
        profileId = some returned ∧
      (SavesShown row values returned ↔ Storable row values) := by
  obtain ⟨payload, valid, same⟩ := submitForm_script submitted
  rw [same] at accepted ⊢
  exact ⟨payload.edit row, update_stored stored accepted, savesShown_edit valid row⟩

/-- A profile with a description. -/
def describedProfile : PrivilegeProfile :=
  ⟨1, "ops", 15, [], [], Dict.ofList [("idletime", "30")], some "old", highestLevel_inRange⟩

/-- The described profile is the only one. -/
def describedTables : AdminTables := { oneOfEach with privilegeProfiles := [describedProfile] }

/-- The profile is renamed, and gets another description and another value for a key. -/
def renamedForm : FormValues where
  name := " netops "
  tacacsPrivLvl := 7
  permitCommandsRegex := ["^show "]
  denyCommandsRegex := []
  extraAvPairs := [⟨"idletime", "30"⟩, ⟨" ", "x"⟩, ⟨" idletime", "60"⟩]
  description := "new "

/-- A save of the only profile shows what was submitted. -/
theorem renamedForm_shown :
    ∃ returned, SavesShown describedProfile renamedForm returned := by
  have ran : (submitForm Char.isAlphanum adminAtBrowser 1 renamedForm).map (fun script =>
      (script.run adminEngine (.start describedTables ⟨2, 2, 2, 2⟩) []).2) =
        some (.answered (.response 200)) := by decide +kernel
  obtain ⟨script, submitted, accepted⟩ := Option.map_eq_some_iff.mp ran
  have stored : storedProfile describedTables 1 = some describedProfile := rfl
  obtain ⟨returned, _, exactly⟩ := savesShown_iff stored submitted accepted
  have storable : Storable describedProfile renamedForm := by
    constructor
    · intro cleared
      exact absurd cleared (by decide +kernel)
    · decide +kernel
  exact ⟨returned, exactly.mpr storable⟩

/-- The form of the profile with the description cleared. -/
def clearedForm : FormValues :=
  { toFormValues (some describedProfile) with description := "" }

/-- A cleared description stays. -/
theorem clearedForm_not_shown :
    ¬∀ (printable : Char → Bool) (ctx : SessionContext) (tables : AdminTables)
      (sequences : AdminSequences) (plan : List Outcome) (profileId : Int)
      (row : PrivilegeProfile) (values : FormValues) (script : AdminScript),
        storedProfile tables profileId = some row →
        submitForm printable ctx profileId values = some script →
        (script.run adminEngine (.start tables sequences) plan).2 = .answered (.response 200) →
          ∃ returned,
            storedProfile (script.run adminEngine (.start tables sequences) plan).1.durable.tables
              profileId = some returned ∧ SavesShown row values returned := by
  intro claimed
  have ran : (submitForm Char.isAlphanum adminAtBrowser 1 clearedForm).map (fun script =>
      ((script.run adminEngine (.start describedTables ⟨2, 2, 2, 2⟩) []).2,
        storedProfile (script.run adminEngine (.start describedTables
          ⟨2, 2, 2, 2⟩) []).1.durable.tables 1)) =
        some (.answered (.response 200), some describedProfile) := by decide +kernel
  obtain ⟨script, submitted, ended⟩ := Option.map_eq_some_iff.mp ran
  have accepted := congrArg Prod.fst ended
  have left := congrArg Prod.snd ended
  obtain ⟨returned, after, saved⟩ := claimed Char.isAlphanum adminAtBrowser describedTables
    ⟨2, 2, 2, 2⟩ [] 1 describedProfile clearedForm script rfl submitted accepted
  obtain rfl := Option.some.inj (left.symm.trans after)
  have gone := saved.cleared (by decide +kernel)
  revert gone
  decide +kernel

end TacacsWeb.Verif
