import TacacsWeb.Library.Text
import TacacsWeb.Model.Schema

/-!
# Rendering a privilege profile

`app.authz.profile_render`: the inline script that the daemon evaluates for a session and
for each command. The script is a list of lines, each under the indentation of its block.
-/

namespace TacacsWeb.Model

open TacacsWeb.Library.Text

/-- `_INDENT_3`. -/
def indent3 : String := "            "

/-- `_INDENT_4`. -/
def indent4 : String := "                "

/-- `_INDENT_5`. -/
def indent5 : String := "                    "

/-- `_escape_double_quote`. -/
def escapeDoubleQuote (value : String) : String :=
  replaceChar '"' "\\\"" (replaceChar '\\' "\\\\" value)

/-- `_escape_regex_for_script`: the script delimits patterns with slashes. -/
def escapeRegexForScript (pattern : String) : String := replaceChar '/' "\\/" pattern

/-- The `set` statement of one entry of `extra_av_pairs`. -/
def extraAvLine (entry : String × String) : String :=
  indent5 ++ "set " ++ entry.1 ++ " = \"" ++ escapeDoubleQuote entry.2 ++ "\""

/-- The block that answers the session request, which has an empty command. -/
def shellSessionBlock (profile : PrivilegeProfile) : List String :=
  [indent4 ++ "if (cmd == \"\") \x7b", indent5 ++ "set priv-lvl = " ++
    toString profile.tacacsPrivLvl] ++
  profile.extraAvPairs.items.map extraAvLine ++
  [indent5 ++ "permit", indent4 ++ "\x7d"]

/-- One `if (cmd =~ /.../)` line. -/
def commandLine (verdict pattern : String) : String :=
  indent4 ++ "if (cmd =~ /" ++ escapeRegexForScript pattern ++ "/) " ++ verdict

/-- The lines that answer a command request: denials first, then permits, then the default. -/
def perCommandLines (profile : PrivilegeProfile) : List String :=
  if profile.permitCommandsRegex = [] ∧ profile.denyCommandsRegex = [] then [indent4 ++ "permit"]
  else profile.denyCommandsRegex.map (commandLine "deny") ++
    profile.permitCommandsRegex.map (commandLine "permit") ++ [indent4 ++ "deny"]

/-- `render_tacprofile`. -/
def renderTacprofile (profile : PrivilegeProfile) : String :=
  "\n".intercalate (["\x7b", "    profile \x7b", "        script \x7b",
    indent3 ++ "if (service == shell) \x7b"] ++ shellSessionBlock profile ++
    perCommandLines profile ++ [indent3 ++ "\x7d", indent3 ++ "deny", "        \x7d", "    \x7d",
    "\x7d"])

end TacacsWeb.Model
