import TacacsWeb.Model.ProfileScript

/-!
# What a profile permits

The script of a profile, run as the daemon runs it: statements in order up to the first answer. The
outcome is the one that the lists of the profile say, whatever a pattern matches.
-/

namespace TacacsWeb.Verif

open TacacsWeb.Library TacacsWeb.Library.AttributeScript TacacsWeb.Model

/-- What a profile says of a command: denials first, then permits, and everything is permitted
without either. -/
def commandVerdict (isMatch : String → String → Bool) (profile : PrivilegeProfile)
    (cmd : String) : Verdict :=
  if profile.permitCommandsRegex = [] ∧ profile.denyCommandsRegex = [] then .permit
  else if profile.denyCommandsRegex.any fun pattern => isMatch pattern cmd then .deny
  else if profile.permitCommandsRegex.any fun pattern => isMatch pattern cmd then .permit
  else .deny

/-- The run of the script of a profile for a request. -/
def scriptOutcome (isMatch : String → String → Bool) (profile : PrivilegeProfile)
    (request : ScriptRequest) : Outcome ScriptValue :=
  runAll (request.meets isMatch) (tacprofileScript profile) Dict.empty

/-- A script answers as the profile says. -/
structure AnswersAsStated (isMatch : String → String → Bool) (profile : PrivilegeProfile) :
    Prop where
  /-- The statements are those of the rendered text. -/
  rendered : renderTacprofile profile = printProfile (tacprofileScript profile)
  /-- Another service is denied. -/
  otherService : ∀ request : ScriptRequest, request.service ≠ "shell" →
    (scriptOutcome isMatch profile request).verdict = some .deny
  /-- The session is permitted. -/
  session : (scriptOutcome isMatch profile shellSession).verdict = some .permit
  /-- Every further attribute is set by then. -/
  attributes : ∀ entry ∈ profile.extraAvPairs.items,
    (scriptOutcome isMatch profile shellSession).attributes.get? entry.1 = some (.quoted entry.2)
  /-- A command gets the verdict of the lists. -/
  command : ∀ cmd, cmd ≠ "" →
    (scriptOutcome isMatch profile ⟨"shell", cmd⟩).verdict =
      some (commandVerdict isMatch profile cmd)

variable (isMatch : String → String → Bool) (profile : PrivilegeProfile)

/-- A service other than the shell reaches the last statement. -/
theorem scriptOutcome_otherService {request : ScriptRequest} (other : request.service ≠ "shell") :
    scriptOutcome isMatch profile request = ⟨Dict.empty, some .deny⟩ := by
  have skips : request.meets isMatch (.service "shell") = false := by
    simpa [ScriptRequest.meets] using other
  unfold scriptOutcome tacprofileScript
  rw [runAll_block_skip skips]
  exact runAll_answer .deny

/-- A session is permitted with the settings of its block. -/
theorem scriptOutcome_session :
    scriptOutcome isMatch profile shellSession =
      ⟨assigned (sessionSettings profile) Dict.empty, some .permit⟩ := by
  unfold scriptOutcome tacprofileScript
  apply runAll_block rfl
  apply runAll_block rfl
  rw [runAll_sets]
  exact runAll_answer .permit

/-- The statements on a command give the verdict of the lists. -/
theorem runAll_commandStatements {cmd : String} (attributes : Dict String ScriptValue) :
    runAll (ScriptRequest.meets isMatch ⟨"shell", cmd⟩) (commandStatements profile) attributes =
      ⟨attributes, some (commandVerdict isMatch profile cmd)⟩ := by
  have guarded : ∀ (patterns : List String) (verdict : Verdict),
      (patterns.map fun pattern =>
        (Statement.answerIf (ScriptCondition.cmdMatches pattern) verdict : ScriptStatement)) =
      (patterns.map ScriptCondition.cmdMatches).map fun condition =>
        .answerIf condition verdict := by
    intro patterns verdict
    rw [List.map_map]
    rfl
  have any : ∀ patterns : List String,
      ((patterns.map ScriptCondition.cmdMatches).any (ScriptRequest.meets isMatch ⟨"shell", cmd⟩)) =
        patterns.any fun pattern => isMatch pattern cmd := by
    intro patterns
    rw [List.any_map]
    rfl
  unfold commandStatements commandVerdict
  split
  · exact runAll_answer .permit
  · rw [List.append_assoc, guarded, guarded, runAll_answersIf, runAll_answersIf, any, any]
    split
    · rfl
    · split
      · rfl
      · exact runAll_answer .deny

/-- A command goes past the block of the session. -/
theorem scriptOutcome_command {cmd : String} (given : cmd ≠ "") :
    scriptOutcome isMatch profile ⟨"shell", cmd⟩ =
      ⟨Dict.empty, some (commandVerdict isMatch profile cmd)⟩ := by
  have skips : ScriptRequest.meets isMatch ⟨"shell", cmd⟩ .emptyCmd = false := by
    simpa [ScriptRequest.meets] using given
  unfold scriptOutcome tacprofileScript
  apply runAll_block rfl
  rw [runAll_block_skip skips]
  exact runAll_commandStatements isMatch profile Dict.empty

/-- Whatever the lists and the attributes of a profile are and whatever a pattern matches, the
rendered script denies other services, permits the session once every attribute is set, and answers
a command by the denials, then the permits, then the default. -/
theorem tacprofileScript_answersAsStated : AnswersAsStated isMatch profile where
  rendered := renderTacprofile_eq_print profile
  otherService request other := by
    rw [scriptOutcome_otherService isMatch profile other]
  session := by
    rw [scriptOutcome_session isMatch profile]
  attributes entry listed := by
    rw [scriptOutcome_session isMatch profile]
    have keys : (profile.extraAvPairs.items.map fun entry =>
        (entry.1, ScriptValue.quoted entry.2)).map Prod.fst = profile.extraAvPairs.keys := by
      simp [Dict.keys]
    have distinct : ((profile.extraAvPairs.items.map fun entry =>
        (entry.1, ScriptValue.quoted entry.2)).map Prod.fst).Nodup := by
      rw [keys]
      exact profile.extraAvPairs.nodup
    have here : (entry.1, ScriptValue.quoted entry.2) ∈
        profile.extraAvPairs.items.map fun entry => (entry.1, ScriptValue.quoted entry.2) :=
      List.mem_map.mpr ⟨entry, listed, rfl⟩
    exact assigned_get?_of_mem
      (Dict.empty.set "priv-lvl" (.number profile.tacacsPrivLvl)) distinct here
  command cmd given := by
    rw [scriptOutcome_command isMatch profile given]

example : commandVerdict (fun pattern cmd => pattern = cmd)
    ⟨1, "read", 1, ["show"], ["reload"], ∅, none, by decide⟩ "configure" = .deny := by decide

end TacacsWeb.Verif
