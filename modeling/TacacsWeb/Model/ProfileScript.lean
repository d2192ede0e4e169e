import TacacsWeb.Library.AttributeScript
import TacacsWeb.Model.ProfileRender

/-!
# The script that a profile is rendered to

The daemon is not part of the repository. Its reading of a rendered profile is the one that
`app.authz.profile_render` describes: statements in order, blocks under `if`, attributes by
`set`. `tacprofileScript` is the script as statements and `printProfile` is the text of a
script; that the rendered text is that of the script is `renderTacprofile_eq_print`.
-/

namespace TacacsWeb.Model

open TacacsWeb.Library TacacsWeb.Library.AttributeScript TacacsWeb.Library.Text

/-- The conditions of a profile script. -/
inductive ScriptCondition where
  /-- `service == ...`. -/
  | service (name : String)
  /-- `cmd == ""`. -/
  | emptyCmd
  /-- `cmd =~ /.../`. -/
  | cmdMatches (pattern : String)
deriving DecidableEq

/-- The values of a profile script. -/
inductive ScriptValue where
  /-- A number. -/
  | number (value : Int)
  /-- A quoted text. -/
  | quoted (text : String)
deriving DecidableEq

/-- A statement of a profile script. -/
abbrev ScriptStatement := Statement ScriptCondition ScriptValue

/-- What the daemon runs a script on. -/
structure ScriptRequest where
  /-- The service. -/
  service : String
  /-- The command, empty for the session itself. -/
  cmd : String

/-- When a condition holds of a request, under the regular expressions of the daemon. -/
def ScriptRequest.meets (isMatch : String → String → Bool) (request : ScriptRequest) :
    ScriptCondition → Bool
  | .service name => request.service = name
  | .emptyCmd => request.cmd = ""
  | .cmdMatches pattern => isMatch pattern request.cmd

/-- The request for a shell session. -/
def shellSession : ScriptRequest := ⟨"shell", ""⟩

/-- The assignments of the session block: the level, then the further attributes. -/
def sessionSettings (profile : PrivilegeProfile) : List (String × ScriptValue) :=
  ("priv-lvl", .number profile.tacacsPrivLvl) ::
    profile.extraAvPairs.items.map fun entry => (entry.1, .quoted entry.2)

/-- The statements on a command: denials, then permits, then the default. -/
def commandStatements (profile : PrivilegeProfile) : List ScriptStatement :=
  if profile.permitCommandsRegex = [] ∧ profile.denyCommandsRegex = [] then [.answer .permit]
  else (profile.denyCommandsRegex.map fun pattern => .answerIf (.cmdMatches pattern) .deny) ++
    (profile.permitCommandsRegex.map fun pattern => .answerIf (.cmdMatches pattern) .permit) ++
    [.answer .deny]

/-- The script of a profile. -/
def tacprofileScript (profile : PrivilegeProfile) : List ScriptStatement :=
  [.block (.service "shell")
    (.block .emptyCmd (sets (sessionSettings profile) ++ [.answer .permit]) ::
      commandStatements profile),
    .answer .deny]

/-! ## The text of a script -/

/-- The indentation of a block, four blanks for each level. -/
def indentation (depth : Nat) : String := String.ofList (List.replicate (4 * depth) ' ')

/-- The text of an answer. -/
def verdictText : Verdict → String
  | .permit => "permit"
  | .deny => "deny"

/-- The text of a value. -/
def ScriptValue.text : ScriptValue → String
  | .number value => toString value
  | .quoted text => "\"" ++ escapeDoubleQuote text ++ "\""

/-- The text of a condition. -/
def ScriptCondition.text : ScriptCondition → String
  | .service name => "service == " ++ name
  | .emptyCmd => "cmd == \"\""
  | .cmdMatches pattern => "cmd =~ /" ++ escapeRegexForScript pattern ++ "/"

mutual

/-- The lines of a statement. -/
def statementLines (depth : Nat) : ScriptStatement → List String
  | .set name value => [indentation depth ++ "set " ++ name ++ " = " ++ value.text]
  | .answer verdict => [indentation depth ++ verdictText verdict]
  | .answerIf condition verdict =>
    [indentation depth ++ "if (" ++ condition.text ++ ") " ++ verdictText verdict]
  | .block condition body =>
    [indentation depth ++ "if (" ++ condition.text ++ ") \x7b"] ++
      scriptLines (depth + 1) body ++ [indentation depth ++ "\x7d"]

/-- The lines of a script. -/
def scriptLines (depth : Nat) : List ScriptStatement → List String
  | [] => []
  | statement :: rest => statementLines depth statement ++ scriptLines depth rest

end

/-- The text of a profile with a script. -/
def printProfile (script : List ScriptStatement) : String :=
  "\n".intercalate (["\x7b", indentation 1 ++ "profile \x7b", indentation 2 ++ "script \x7b"] ++
    scriptLines 3 script ++ [indentation 2 ++ "\x7d", indentation 1 ++ "\x7d", "\x7d"])

/-- The lines of two scripts, one after the other. -/
theorem scriptLines_append (depth : Nat) (first second : List ScriptStatement) :
    scriptLines depth (first ++ second) = scriptLines depth first ++ scriptLines depth second := by
  induction first with
  | nil => rfl
  | cons statement first ih =>
    rw [List.cons_append, scriptLines, scriptLines, ih, List.append_assoc]

/-- Statements of one line each. -/
theorem scriptLines_map {Entry : Type} (depth : Nat) (entries : List Entry)
    (statement : Entry → ScriptStatement) (line : Entry → String)
    (single : ∀ entry, statementLines depth (statement entry) = [line entry]) :
    scriptLines depth (entries.map statement) = entries.map line := by
  induction entries with
  | nil => rfl
  | cons entry entries ih =>
    rw [List.map_cons, scriptLines, single, ih]
    rfl

/-- The line of an entry is that of its assignment. -/
theorem statementLines_extra (entry : String × String) :
    statementLines 5 (.set entry.1 (.quoted entry.2)) = [extraAvLine entry] := by
  have opened : " = \"" = " = " ++ "\"" := rfl
  rw [statementLines, extraAvLine, ScriptValue.text, opened]
  simp only [String.append_assoc]
  rfl

/-- The line of a pattern is that of its guarded answer. -/
theorem statementLines_command (verdict : Verdict) (pattern : String) :
    statementLines 4 (.answerIf (.cmdMatches pattern) verdict) =
      [commandLine (verdictText verdict) pattern] := by
  have opened : "if (cmd =~ /" = "if (" ++ "cmd =~ /" := rfl
  have closed : "/) " = "/" ++ ") " := rfl
  rw [statementLines, commandLine, ScriptCondition.text, opened, closed]
  simp only [String.append_assoc]
  rfl

/-- The rendered text is the text of the script. -/
theorem renderTacprofile_eq_print (profile : PrivilegeProfile) :
    renderTacprofile profile = printProfile (tacprofileScript profile) := by
  have extras : scriptLines 5
      (profile.extraAvPairs.items.map fun entry => .set entry.1 (.quoted entry.2)) =
      profile.extraAvPairs.items.map extraAvLine :=
    scriptLines_map 5 _ _ _ statementLines_extra
  have commands : scriptLines 4 (commandStatements profile) = perCommandLines profile := by
    unfold commandStatements perCommandLines
    split
    · rfl
    · rw [scriptLines_append, scriptLines_append,
        scriptLines_map 4 _ _ _ (statementLines_command .deny),
        scriptLines_map 4 _ _ _ (statementLines_command .permit)]
      rfl
  have settings : scriptLines 5 (sets (sessionSettings profile)) =
      (indent5 ++ "set priv-lvl = " ++ toString profile.tacacsPrivLvl) ::
        profile.extraAvPairs.items.map extraAvLine := by
    have named : "set priv-lvl = " = "set " ++ "priv-lvl" ++ " = " := rfl
    rw [sets, sessionSettings, List.map_cons, List.map_map, scriptLines, named]
    simp only [String.append_assoc]
    exact congrArg _ extras
  have lines : scriptLines 3 (tacprofileScript profile) =
      (indent3 ++ "if (service == shell) \x7b") :: (shellSessionBlock profile ++
        perCommandLines profile ++ [indent3 ++ "\x7d", indent3 ++ "deny"]) := by
    simp only [tacprofileScript, scriptLines, statementLines, scriptLines_append, settings,
      commands, shellSessionBlock]
    simp [indentation, indent3, indent4, indent5, ScriptCondition.text, verdictText]
  rw [printProfile, lines, renderTacprofile]
  simp [indentation]

end TacacsWeb.Model
