import TacacsWeb.Library.Lexer
import TacacsWeb.Model.ProfileScript

/-!
# The script that the daemon reads

A reader of the grammar in which `app.authz.profile_render` writes a profile, and the level of the
session that the script in a text grants. The daemon is not part of the repository; this is its
reading as the renderer relies on it, of the text and nothing else.
-/

namespace TacacsWeb.Model

open TacacsWeb.Library TacacsWeb.Library.AttributeScript TacacsWeb.Library.Lexer
open TacacsWeb.Library.Text

/-! ## Words, values and patterns -/

/-- A character of an identifier. -/
def isIdentifierChar (char : Char) : Bool :=
  char.isAlphanum || char = '_' || char = '-' || char = '.' || char = ':'

/-- A text that is one identifier. -/
def IsIdentifier (text : String) : Prop :=
  text ≠ "" ∧ ∀ char ∈ text.toList, isIdentifierChar char = true

instance (text : String) : Decidable (IsIdentifier text) :=
  haveI : Decidable (∀ char ∈ text.toList, isIdentifierChar char = true) :=
    List.decidableBAll _ text.toList
  inferInstanceAs (Decidable (text ≠ "" ∧ ∀ char ∈ text.toList, isIdentifierChar char = true))

/-- No blank and no delimiter is part of an identifier. -/
theorem isIdentifierChar_false : ∀ char ∈ [' ', '\n', '"', '/'], isIdentifierChar char = false :=
  forall_of_all (by decide)

/-- The characters of a profile script. -/
def scriptRules : Rules where
  isSpace char := [' ', '\n'].contains char
  isDelimiter char := ['"', '/'].contains char
  isWord := isIdentifierChar
  isSymbol char := ['\x7b', '\x7d', '(', ')', '=', '~'].contains char
  word_only char isWord := by
    constructor
    · cases blank : [' ', '\n'].contains char with
      | false => rfl
      | true =>
        have listed : char ∈ [' ', '\n'] := List.contains_iff_mem.mp blank
        rw [isIdentifierChar_false char (List.mem_append_left ['"', '/'] listed)] at isWord
        cases isWord
    · cases delimiter : ['"', '/'].contains char with
      | false => rfl
      | true =>
        have listed : char ∈ ['"', '/'] := List.contains_iff_mem.mp delimiter
        rw [isIdentifierChar_false char (List.mem_append_right [' ', '\n'] listed)] at isWord
        cases isWord
  symbol_only char isSymbol := by
    have apart : ∀ symbol ∈ ['\x7b', '\x7d', '(', ')', '=', '~'],
        [' ', '\n'].contains symbol = false ∧ ['"', '/'].contains symbol = false ∧
          isIdentifierChar symbol = false := forall_of_all (by decide)
    exact apart char (List.contains_iff_mem.mp isSymbol)
  delimiter_only char isDelimiter := by
    have apart : ∀ delimiter ∈ ['"', '/'],
        [' ', '\n'].contains delimiter = false ∧ delimiter ≠ '\\' := forall_of_all (by decide)
    exact apart char (List.contains_iff_mem.mp isDelimiter)

/-- What a piece matches: an escaped slash is a slash. -/
def meaning : Piece → Piece
  | .escaped '/' => .plain '/'
  | piece => piece

/-- The pattern of a literal: a slash needs no backslash outside of one. -/
def patternText (pieces : List Piece) : String :=
  String.ofList (pieces.flatMap fun piece => (meaning piece).text)

/-- A decimal numeral. -/
def decimal (text : String) : Option Nat :=
  if text.toList.isEmpty || !text.toList.all Char.isDigit then none
  else some (text.toList.foldl (fun value digit => 10 * value + (digit.toNat - 48)) 0)

/-- The value after `=`. -/
def readValue : Token → Option ScriptValue
  | .word text => (decimal text).map fun (value : Nat) => .number value
  | .quoted delimiter pieces => if delimiter = '"' then some (.quoted (quotedText pieces)) else none
  | .symbol _ => none

/-- The answer of a keyword. -/
def readVerdict (keyword : String) : Option Verdict :=
  if keyword = "permit" then some .permit
  else if keyword = "deny" then some .deny
  else none

/-- The condition `subject =? operand`. -/
def readCondition (subject : String) (operator : Char) : Token → Option ScriptCondition
  | .word name => if subject = "service" ∧ operator = '=' then some (.service name) else none
  | .quoted delimiter pieces =>
    if subject = "cmd" ∧ operator = '=' ∧ delimiter = '"' ∧ pieces = [] then some .emptyCmd
    else if subject = "cmd" ∧ operator = '~' ∧ delimiter = '/' then
      some (.cmdMatches (patternText pieces))
    else none
  | .symbol _ => none

/-- What follows `if (condition)`: an answer, or a block that is read as a script. -/
def readGuarded (read : List Token → Option (List ScriptStatement × List Token))
    (condition : ScriptCondition) : List Token → Option (ScriptStatement × List Token)
  | .word keyword :: rest => (readVerdict keyword).map fun verdict =>
    (.answerIf condition verdict, rest)
  | .symbol '\x7b' :: rest => (read rest).bind fun inner =>
    match inner.2 with
    | .symbol '\x7d' :: after => some (.block condition inner.1, after)
    | _ => none
  | _ => none

/-- What follows `set`. -/
def readSet : List Token → Option (ScriptStatement × List Token)
  | .word name :: .symbol '=' :: value :: rest =>
    (readValue value).map fun value => (.set name value, rest)
  | _ => none

/-- What follows `if`. -/
def readIf (read : List Token → Option (List ScriptStatement × List Token)) :
    List Token → Option (ScriptStatement × List Token)
  | .symbol '(' :: .word subject :: .symbol '=' :: rest =>
    match rest with
    | .symbol operator :: operand :: .symbol ')' :: rest =>
      (readCondition subject operator operand).bind fun condition => readGuarded read condition rest
    | _ => none
  | _ => none

/-- One statement after its keyword. -/
def readStatement (read : List Token → Option (List ScriptStatement × List Token))
    (keyword : String) (rest : List Token) : Option (ScriptStatement × List Token) :=
  if keyword = "set" then readSet rest
  else if keyword = "if" then readIf read rest
  else (readVerdict keyword).map fun verdict => (.answer verdict, rest)

/-- A script: statements, each after a keyword, with a bound on their number. -/
def readScript : Nat → List Token → Option (List ScriptStatement × List Token)
  | 0, _ => none
  | bound + 1, .word keyword :: rest =>
    (readStatement (readScript bound) keyword rest).bind fun first =>
      (readScript bound first.2).map fun later => (first.1 :: later.1, later.2)
  | _ + 1, found => some ([], found)

/-- `{ profile { script {`. -/
def openingTokens : List Token :=
  [.symbol '\x7b', .word "profile", .symbol '\x7b', .word "script", .symbol '\x7b']

/-- `} } }`. -/
def closingTokens : List Token := [.symbol '\x7d', .symbol '\x7d', .symbol '\x7d']

/-- The script in the text of a profile, none when the text does not read as one. -/
def readScriptText (text : String) : Option (List ScriptStatement) :=
  (tokens scriptRules text.toList).bind fun found =>
    if openingTokens.isPrefixOf found then
      (readScript found.length (found.drop openingTokens.length)).bind fun read =>
        if read.2 = closingTokens then some read.1 else none
    else none

/-! ## Granting a session -/

/-- The level that a value stands for. -/
def ScriptValue.level : ScriptValue → Option Int
  | .number value => some value
  | .quoted text => (decimal text).map Int.ofNat

/-- The level that a run of a script for a shell session grants, none when the session is not
permitted. -/
def grantedLevel : AttributeScript.Outcome ScriptValue → Option Int
  | ⟨attributes, some .permit⟩ => (attributes.get? "priv-lvl").bind ScriptValue.level
  | _ => none

/-- The level of the session that the rendered text of a profile grants, none when the text does not
read as a script or its script does not permit the session. -/
def sessionLevel (isMatch : String → String → Bool) (profile : PrivilegeProfile) : Option Int :=
  (readScriptText (renderTacprofile profile)).bind fun script =>
    grantedLevel (runAll (shellSession.meets isMatch) script Dict.empty)

end TacacsWeb.Model
