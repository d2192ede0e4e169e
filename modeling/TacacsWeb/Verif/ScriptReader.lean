import TacacsWeb.Verif.RegexLiterals

/-!
# Reading a rendered profile

What the reader of the emitted grammar makes of a rendered profile. Values and patterns are
escaped and keys are not, so the text reads as the script of the profile exactly when the keys are
identifiers.
-/

namespace TacacsWeb.Verif

open TacacsWeb.Library TacacsWeb.Library.AttributeScript TacacsWeb.Library.Lexer
open TacacsWeb.Library.Text TacacsWeb.Model

/-! ## What is read by name -/

/-- The script sets the level and the further attributes, and nothing else. -/
theorem namesAll_tacprofileScript (profile : PrivilegeProfile) :
    namesAll (tacprofileScript profile) = "priv-lvl" :: profile.extraAvPairs.keys := by
  have commands : namesAll (commandStatements profile) = [] := by
    refine namesAll_answers fun statement listed => ?_
    unfold commandStatements at listed
    split at listed
    · obtain rfl := List.mem_singleton.mp listed
      rfl
    · simp only [List.mem_append, List.mem_map, List.mem_singleton] at listed
      rcases listed with (⟨pattern, -, rfl⟩ | ⟨pattern, -, rfl⟩) | rfl
      · rfl
      · rfl
      · rfl
  have settings : (sessionSettings profile).map Prod.fst =
      "priv-lvl" :: profile.extraAvPairs.keys := by
    simp [sessionSettings, Dict.keys]
  simp [tacprofileScript, namesAll, names, namesAll_append, namesAll_sets, commands, settings]

/-- The names of a script are among some tokens, and so is what is left behind it. -/
def NamesListed (found : List Token) (script : List ScriptStatement) (rest : List Token) : Prop :=
  (∀ name ∈ namesAll script, .word name ∈ found) ∧ rest ⊆ found

/-- One statement takes its names from the tokens. -/
theorem readStatement_names {read : List Token → Option (List ScriptStatement × List Token)}
    (inner : ∀ found script rest, read found = some (script, rest) →
      NamesListed found script rest)
    {keyword : String} {found rest : List Token} {statement : ScriptStatement}
    (done : readStatement read keyword found = some (statement, rest)) :
    NamesListed found [statement] rest := by
  have single : namesAll [statement] = names statement := by
    rw [namesAll, namesAll, List.append_nil]
  unfold NamesListed
  rw [single]
  unfold readStatement at done
  split at done
  · unfold readSet at done
    split at done
    · obtain ⟨value, -, same⟩ := Option.map_eq_some_iff.mp done
      cases same
      constructor
      · intro name listed
        have here := List.mem_singleton.mp listed
        rw [here]
        exact List.mem_cons_self
      · intro token listed
        simp [listed]
    · cases done
  split at done
  · unfold readIf at done
    split at done
    · split at done
      · obtain ⟨condition, -, done⟩ := Option.bind_eq_some_iff.mp done
        unfold readGuarded at done
        split at done
        · obtain ⟨verdict, -, same⟩ := Option.map_eq_some_iff.mp done
          cases same
          constructor
          · intro name listed
            cases listed
          · intro token listed
            simp [listed]
        · obtain ⟨⟨body, after⟩, block, done⟩ := Option.bind_eq_some_iff.mp done
          obtain ⟨listedNames, subset⟩ := inner _ _ _ block
          simp only at done
          split at done
          · cases done
            constructor
            · intro name listed
              have present := listedNames name listed
              simp [present]
            · intro token listed
              have present := subset (List.mem_cons_of_mem _ listed)
              simp [present]
          · cases done
        · cases done
      · cases done
    · cases done
  · obtain ⟨verdict, -, same⟩ := Option.map_eq_some_iff.mp done
    cases same
    constructor
    · intro name listed
      cases listed
    · exact fun _ listed => listed

/-- A script takes its names from the tokens. -/
theorem readScript_names {bound : Nat} {found rest : List Token} {script : List ScriptStatement}
    (done : readScript bound found = some (script, rest)) : NamesListed found script rest := by
  induction bound generalizing found script rest with
  | zero => cases done
  | succ bound ih =>
    have ended : (some ([], found) : Option (List ScriptStatement × List Token)) =
        some (script, rest) → NamesListed found script rest := by
      intro same
      cases same
      constructor
      · intro name listed
        cases listed
      · exact fun _ listed => listed
    cases found with
    | nil => exact ended done
    | cons token later =>
      cases token with
      | quoted delimiter pieces => exact ended done
      | symbol char => exact ended done
      | word keyword =>
        obtain ⟨⟨statement, after⟩, first, done⟩ := Option.bind_eq_some_iff.mp done
        obtain ⟨⟨others, left⟩, tail, same⟩ := Option.map_eq_some_iff.mp done
        cases same
        obtain ⟨ownNames, ownRest⟩ := readStatement_names (fun _ _ _ read => ih read) first
        obtain ⟨laterNames, laterRest⟩ := ih tail
        constructor
        · intro name listed
          rw [namesAll, List.mem_append] at listed
          apply List.mem_cons_of_mem
          cases listed with
          | inl own =>
            apply ownNames name
            rw [namesAll, namesAll, List.append_nil]
            exact own
          | inr other => exact ownRest (laterNames name other)
        · intro token listed
          exact List.mem_cons_of_mem _ (ownRest (laterRest listed))

/-- Every name in a text that reads as a script is an identifier. -/
theorem isIdentifier_of_readScriptText {text : String} {script : List ScriptStatement}
    (done : readScriptText text = some script) : ∀ name ∈ namesAll script, IsIdentifier name := by
  intro name listed
  unfold readScriptText at done
  obtain ⟨found, lexed, done⟩ := Option.bind_eq_some_iff.mp done
  split at done
  · obtain ⟨⟨body, rest⟩, read, done⟩ := Option.bind_eq_some_iff.mp done
    simp only at done
    split at done
    · cases done
      have present := (readScript_names read).1 name listed
      exact word_of_mem lexed (List.mem_of_mem_drop present)
    · cases done
  · cases done

/-! ## Reading statements -/

/-- Tokens read as a script, whatever the bound is. -/
structure Reads (found : List Token) (script : List ScriptStatement) (rest : List Token) :
    Prop where
  /-- What is left is no longer than what was there. -/
  shorter : rest.length ≤ found.length
  /-- The script is read. -/
  read : ∀ bound, found.length < bound → readScript bound found = some (script, rest)

/-- A script ends before a closing brace. -/
theorem reads_closing (rest : List Token) :
    Reads (.symbol '\x7d' :: rest) [] (.symbol '\x7d' :: rest) where
  shorter := Nat.le_refl _
  read bound enough := by
    cases bound with
    | zero => cases enough
    | succ bound => rfl

/-- A statement of one keyword. -/
theorem Reads.statement {keyword : String} {found after rest : List Token}
    {statement : ScriptStatement} {script : List ScriptStatement}
    (first : ∀ bound, found.length < bound →
      readStatement (readScript bound) keyword found = some (statement, after))
    (fits : after.length ≤ found.length) (later : Reads after script rest) :
    Reads (.word keyword :: found) (statement :: script) rest where
  shorter := by
    have less := later.shorter
    rw [List.length_cons]
    omega
  read bound enough := by
    rw [List.length_cons] at enough
    cases bound with
    | zero => cases enough
    | succ bound =>
      have room : found.length < bound := by omega
      rw [readScript, first bound room, Option.bind_some]
      rw [later.read bound (by omega)]
      rfl

/-- A script that begins with an assignment is read if the rest is. -/
theorem Reads.set {name : String} {token : Token} {value : ScriptValue} {found rest : List Token}
    {script : List ScriptStatement} (given : readValue token = some value)
    (later : Reads found script rest) :
    Reads (.word "set" :: .word name :: .symbol '=' :: token :: found) (.set name value :: script)
      rest := by
  apply Reads.statement _ _ later
  · intro bound _
    rw [readStatement, if_pos rfl, readSet, given]
    rfl
  · simp only [List.length_cons]
    omega

/-- A script that begins with an answer is read if the rest is. -/
theorem Reads.answer (verdict : Verdict) {found rest : List Token}
    {script : List ScriptStatement} (later : Reads found script rest) :
    Reads (.word (verdictText verdict) :: found) (.answer verdict :: script) rest := by
  apply Reads.statement _ (Nat.le_refl _) later
  intro bound _
  cases verdict <;> rfl

/-- The tokens of a condition in parentheses, after `if`. -/
def guardTokens (subject : String) (operator : Char) (operand : Token) : List Token :=
  [.symbol '(', .word subject, .symbol '=', .symbol operator, operand, .symbol ')']

/-- An answer under a condition. -/
theorem Reads.answerIf {subject : String} {operator : Char} {operand : Token}
    {condition : ScriptCondition} {verdict : Verdict} {found rest : List Token}
    {script : List ScriptStatement}
    (given : readCondition subject operator operand = some condition)
    (later : Reads found script rest) :
    Reads (.word "if" :: (guardTokens subject operator operand ++
      .word (verdictText verdict) :: found)) (.answerIf condition verdict :: script) rest := by
  apply Reads.statement _ _ later
  · intro bound _
    simp only [readStatement, guardTokens, List.cons_append, List.nil_append, readIf, given,
      Option.bind_some]
    cases verdict <;> rfl
  · simp only [List.length_append, List.length_cons]
    omega

/-- A block under a condition. -/
theorem Reads.block {subject : String} {operator : Char} {operand : Token}
    {condition : ScriptCondition} {inner found rest : List Token}
    {body script : List ScriptStatement}
    (given : readCondition subject operator operand = some condition)
    (inside : Reads inner body (.symbol '\x7d' :: found)) (later : Reads found script rest) :
    Reads (.word "if" :: (guardTokens subject operator operand ++ .symbol '\x7b' :: inner))
      (.block condition body :: script) rest := by
  have shorter := inside.shorter
  rw [List.length_cons] at shorter
  apply Reads.statement _ _ later
  · intro bound room
    have enough : inner.length < bound := by
      rw [List.length_append, List.length_cons] at room
      omega
    simp only [readStatement, guardTokens, List.cons_append, List.nil_append, readIf, given,
      Option.bind_some, readGuarded, inside.read bound enough]
    rfl
  · rw [List.length_append, List.length_cons]
    omega

/-! ## The tokens of a line -/

/-- The line of a further attribute, under a key that is an identifier. -/
theorem lineLexes_extraAvLine {entry : String × String} (named : IsIdentifier entry.1) :
    LineLexes scriptRules (extraAvLine entry) [.word "set", .word entry.1, .symbol '=',
      .quoted '"' (entry.2.toList.map (protectedPiece '"'))] := by
  intro rest later ends lexes
  have protectedText : (escapeDoubleQuote entry.2).toList =
      (entry.2.toList.map (protectedPiece '"')).flatMap Piece.text :=
    toList_replaceChar_protected (by decide) rfl entry.2
  have written : (extraAvLine entry).toList ++ rest =
      (indent5 ++ "set").toList ++ ' ' :: (entry.1.toList ++ (" = ".toList ++ '"' ::
        ((escapeDoubleQuote entry.2).toList ++ '"' :: rest))) := by
    have opened : "set " = "set" ++ " " := rfl
    have assigned : " = \"" = " = " ++ "\"" := rfl
    rw [extraAvLine, opened, assigned]
    simp
  have value : Lexes scriptRules ('"' :: ((escapeDoubleQuote entry.2).toList ++ '"' :: rest))
      (.quoted '"' (entry.2.toList.map (protectedPiece '"')) :: later) := by
    rw [protectedText]
    exact Lexes.quoted rfl (scan_protected _ (by decide)) lexes
  have equals := Lexes.prefixed " = " [.symbol '='] (by decide) (by decide) value
  have key := Lexes.word (fun empty => named.1 (String.toList_eq_nil_iff.mp empty)) named.2
    (endsWord_cons (by decide)) equals
  rw [String.ofList_toList] at key
  rw [written]
  exact Lexes.prefixed (indent5 ++ "set") [.word "set"] (by decide) (by decide)
    (Lexes.space rfl key)

/-- The pieces that a reader finds in the literal of a pattern. -/
def literalPieces (pattern : String) : List Piece :=
  ((split false pattern.toList).getD []).flatMap escapedPieces

/-- The pattern of a literal is the operator's. -/
theorem patternText_literalPieces {pattern : String} (wellFormed : WellFormedPattern pattern)
    (unescaped : ¬EscapesSlash pattern) : patternText (literalPieces pattern) = pattern := by
  obtain ⟨pieces, parted⟩ := Option.isSome_iff_exists.mp wellFormed
  have absent : .escaped '/' ∉ pieces := fun listed => unescaped ⟨pieces, parted, listed⟩
  have text := (split_eq_some parted).1
  rw [if_neg Bool.false_ne_true] at text
  have own : ∀ piece ∈ pieces, (meaning piece).text = piece.text := by
    intro piece listed
    unfold meaning
    split
    · exact absurd listed absent
    · rfl
  rw [patternText, literalPieces, parted, Option.getD_some, ← List.flatMap_map,
    meaning_escapedPieces, List.flatMap_map, List.flatMap_congr own, text, String.ofList_toList]

/-- The line of a pattern. -/
theorem lineLexes_commandLine (verdict : Verdict) {pattern : String}
    (wellFormed : WellFormedPattern pattern) (unescaped : ¬EscapesSlash pattern) :
    LineLexes scriptRules (commandLine (verdictText verdict) pattern)
      (.word "if" :: (guardTokens "cmd" '~' (.quoted '/' (literalPieces pattern)) ++
        [.word (verdictText verdict)])) := by
  intro rest later ends lexes
  obtain ⟨pieces, parted⟩ := Option.isSome_iff_exists.mp wellFormed
  have absent : .escaped '/' ∉ pieces := fun listed => unescaped ⟨pieces, parted, listed⟩
  have written : (commandLine (verdictText verdict) pattern).toList ++ rest =
      (indent4 ++ "if (cmd =~").toList ++ ' ' :: '/' ::
        ((escapeRegexForScript pattern).toList ++ '/' ::
          ((") " ++ verdictText verdict).toList ++ rest)) := by
    have opened : "if (cmd =~ /" = "if (cmd =~" ++ " /" := rfl
    have closed : "/) " = "/" ++ ") " := rfl
    rw [commandLine, opened, closed]
    simp
  have answer : Lexes scriptRules ((") " ++ verdictText verdict).toList ++ rest)
      ([.symbol ')', .word (verdictText verdict)] ++ later) := by
    cases verdict with
    | permit => exact Lexes.append (show tokens scriptRules _ = _ by decide) ends lexes
    | deny => exact Lexes.append (show tokens scriptRules _ = _ by decide) ends lexes
  have literal : Lexes scriptRules ('/' :: ((escapeRegexForScript pattern).toList ++ '/' ::
      ((") " ++ verdictText verdict).toList ++ rest)))
      (.quoted '/' (pieces.flatMap escapedPieces) ::
        ([.symbol ')', .word (verdictText verdict)] ++ later)) :=
    Lexes.quoted rfl (scan_escapeRegex parted absent _) answer
  have found : literalPieces pattern = pieces.flatMap escapedPieces := by
    rw [literalPieces, parted, Option.getD_some]
  rw [written, found]
  exact Lexes.prefixed (indent4 ++ "if (cmd =~")
    [.word "if", .symbol '(', .word "cmd", .symbol '=', .symbol '~'] (by decide) (by decide)
    (Lexes.space rfl literal)

/-- The line of the level. -/
theorem lineLexes_privLvl {level : Int} (range : 0 ≤ level ∧ level ≤ 15) :
    LineLexes scriptRules (indent5 ++ "set priv-lvl = " ++ toString level)
      [.word "set", .word "priv-lvl", .symbol '=', .word (toString level)] := by
  have each : ∀ number : Nat, number < 16 →
      tokens scriptRules (indent5 ++ "set priv-lvl = " ++ toString (number : Int)).toList =
        some [.word "set", .word "priv-lvl", .symbol '=', .word (toString (number : Int))] := by
    decide
  have small : level.toNat < 16 := by omega
  have same : ((level.toNat : Nat) : Int) = level := by omega
  have here := each level.toNat small
  rw [same] at here
  exact lineLexes_of_tokens here

/-! ## The whole text -/

/-- A line in front of the tokens that it has. -/
abbrev lineOf (line : String) (found : List Token) : String × List Token := (line, found)

/-- The line and the tokens of a further attribute. -/
def extraEntry (entry : String × String) : String × List Token :=
  (extraAvLine entry, [.word "set", .word entry.1, .symbol '=',
    .quoted '"' (entry.2.toList.map (protectedPiece '"'))])

/-- The line and the tokens of a pattern. -/
def patternEntry (verdict : Verdict) (pattern : String) : String × List Token :=
  (commandLine (verdictText verdict) pattern,
    .word "if" :: (guardTokens "cmd" '~' (.quoted '/' (literalPieces pattern)) ++
      [.word (verdictText verdict)]))

/-- The lines and the tokens on a command. -/
def commandEntries (profile : PrivilegeProfile) : List (String × List Token) :=
  if profile.permitCommandsRegex = [] ∧ profile.denyCommandsRegex = [] then
    [lineOf (indent4 ++ "permit") [.word "permit"]]
  else profile.denyCommandsRegex.map (patternEntry .deny) ++
    profile.permitCommandsRegex.map (patternEntry .permit) ++
    [lineOf (indent4 ++ "deny") [.word "deny"]]

/-- The lines and the tokens of a profile. -/
def profileEntries (profile : PrivilegeProfile) : List (String × List Token) :=
  [lineOf "\x7b" [.symbol '\x7b'], lineOf "    profile \x7b" [.word "profile", .symbol '\x7b'],
    lineOf "        script \x7b" [.word "script", .symbol '\x7b'],
    lineOf (indent3 ++ "if (service == shell) \x7b")
      (.word "if" :: (guardTokens "service" '=' (.word "shell") ++ [.symbol '\x7b']))] ++
  ([lineOf (indent4 ++ "if (cmd == \"\") \x7b")
      (.word "if" :: (guardTokens "cmd" '=' (.quoted '"' []) ++ [.symbol '\x7b'])),
    lineOf (indent5 ++ "set priv-lvl = " ++ toString profile.tacacsPrivLvl)
      [.word "set", .word "priv-lvl", .symbol '=', .word (toString profile.tacacsPrivLvl)]] ++
  profile.extraAvPairs.items.map extraEntry ++
  [lineOf (indent5 ++ "permit") [.word "permit"], lineOf (indent4 ++ "\x7d") [.symbol '\x7d']]) ++
  commandEntries profile ++
  [lineOf (indent3 ++ "\x7d") [.symbol '\x7d'], lineOf (indent3 ++ "deny") [.word "deny"],
    lineOf "        \x7d" [.symbol '\x7d'], lineOf "    \x7d" [.symbol '\x7d'],
    lineOf "\x7d" [.symbol '\x7d']]

/-- The lines are those of the renderer. -/
theorem profileEntries_lines (profile : PrivilegeProfile) :
    renderTacprofile profile = "\n".intercalate ((profileEntries profile).map Prod.fst) := by
  have commands : (commandEntries profile).map Prod.fst = perCommandLines profile := by
    unfold commandEntries perCommandLines
    split
    · rfl
    · simp [patternEntry, Function.comp_def, verdictText]
  have extras : (profile.extraAvPairs.items.map extraEntry).map Prod.fst =
      profile.extraAvPairs.items.map extraAvLine := by
    simp [extraEntry, Function.comp_def]
  rw [renderTacprofile, shellSessionBlock]
  simp only [profileEntries, List.map_append, commands, extras, List.map_cons, List.map_nil]

/-- What the text of a profile has to have for it to be read. -/
structure Readable (profile : PrivilegeProfile) : Prop where
  /-- The keys are identifiers. -/
  keys : ∀ key ∈ profile.extraAvPairs.keys, IsIdentifier key
  /-- The patterns are well formed. -/
  wellFormed : ∀ pattern ∈ patternsOf profile, WellFormedPattern pattern
  /-- No pattern escapes a slash. -/
  unescaped : ∀ pattern ∈ patternsOf profile, ¬EscapesSlash pattern

/-- Every line has its tokens. -/
theorem profileEntries_lex {profile : PrivilegeProfile} (readable : Readable profile) :
    ∀ entry ∈ profileEntries profile, LineLexes scriptRules entry.1 entry.2 := by
  have commands : ∀ entry ∈ commandEntries profile, LineLexes scriptRules entry.1 entry.2 := by
    intro entry listed
    unfold commandEntries at listed
    split at listed
    · rw [List.mem_singleton.mp listed]
      exact lineLexes_of_tokens (by decide)
    · cases List.mem_append.mp listed with
      | inl patterns =>
        cases List.mem_append.mp patterns with
        | inl denied =>
          obtain ⟨pattern, present, same⟩ := List.mem_map.mp denied
          rw [← same]
          exact lineLexes_commandLine .deny
            (readable.wellFormed pattern (List.mem_append_left _ present))
            (readable.unescaped pattern (List.mem_append_left _ present))
        | inr permitted =>
          obtain ⟨pattern, present, same⟩ := List.mem_map.mp permitted
          rw [← same]
          exact lineLexes_commandLine .permit
            (readable.wellFormed pattern (List.mem_append_right _ present))
            (readable.unescaped pattern (List.mem_append_right _ present))
      | inr last =>
        rw [List.mem_singleton.mp last]
        exact lineLexes_of_tokens (by decide)
  have extras : ∀ entry ∈ profile.extraAvPairs.items.map extraEntry,
      LineLexes scriptRules entry.1 entry.2 := by
    intro entry listed
    obtain ⟨pair, present, same⟩ := List.mem_map.mp listed
    rw [← same]
    exact lineLexes_extraAvLine (readable.keys pair.1 (List.mem_map_of_mem present))
  have fixed : ∀ entries : List (String × List Token),
      (∀ entry ∈ entries, tokens scriptRules entry.1.toList = some entry.2) →
        ∀ entry ∈ entries, LineLexes scriptRules entry.1 entry.2 :=
    fun _ lexed entry listed => lineLexes_of_tokens (lexed entry listed)
  unfold profileEntries
  simp only [List.forall_mem_append]
  refine ⟨⟨⟨?_, ⟨?_, extras⟩, ?_⟩, commands⟩, ?_⟩
  · exact fixed _ (by decide)
  · intro entry listed
    cases listed with
    | head => exact lineLexes_of_tokens (by decide)
    | tail _ listed =>
      rw [List.mem_singleton.mp listed]
      exact lineLexes_privLvl profile.privLvlRange
  · exact fixed _ (by decide)
  · exact fixed _ (by decide)

/-- The tokens of a readable profile. -/
theorem tokens_renderTacprofile {profile : PrivilegeProfile} (readable : Readable profile) :
    tokens scriptRules (renderTacprofile profile).toList =
      some ((profileEntries profile).flatMap Prod.snd) := by
  have lexes := lexes_lines rfl (profileEntries_lex readable)
  rw [profileEntries_lines, String.toList_intercalate, List.map_map]
  exact lexes.tokens_eq

/-! ## The script in the tokens -/

/-- Assignments of further attributes, and then a script. -/
theorem reads_extras (entries : List (String × String)) {found rest : List Token}
    {script : List ScriptStatement} (later : Reads found script rest) :
    Reads ((entries.map extraEntry).flatMap Prod.snd ++ found)
      ((entries.map fun entry => .set entry.1 (.quoted entry.2)) ++ script) rest := by
  induction entries with
  | nil => exact later
  | cons entry entries ih =>
    have value : readValue (.quoted '"' (entry.2.toList.map (protectedPiece '"'))) =
        some (.quoted entry.2) := by
      rw [readValue, if_pos rfl, quotedText_protected]
    exact Reads.set value ih

/-- Tests of patterns, and then a script. -/
theorem reads_patterns (verdict : Verdict) {patterns : List String} {found rest : List Token}
    {script : List ScriptStatement}
    (wellFormed : ∀ pattern ∈ patterns, WellFormedPattern pattern)
    (unescaped : ∀ pattern ∈ patterns, ¬EscapesSlash pattern) (later : Reads found script rest) :
    Reads ((patterns.map (patternEntry verdict)).flatMap Prod.snd ++ found)
      ((patterns.map fun pattern => .answerIf (.cmdMatches pattern) verdict) ++ script) rest := by
  induction patterns with
  | nil => exact later
  | cons pattern patterns ih =>
    have tail := ih (fun other listed => wellFormed other (List.mem_cons_of_mem _ listed))
      (fun other listed => unescaped other (List.mem_cons_of_mem _ listed))
    have same := patternText_literalPieces (wellFormed pattern List.mem_cons_self)
      (unescaped pattern List.mem_cons_self)
    have given : readCondition "cmd" '~' (.quoted '/' (literalPieces pattern)) =
        some (.cmdMatches pattern) := by
      rw [readCondition, if_neg (by simp), if_pos (by simp), same]
    have read : Reads (.word "if" :: (guardTokens "cmd" '~' (.quoted '/' (literalPieces pattern)) ++
        .word (verdictText verdict) :: ((patterns.map (patternEntry verdict)).flatMap Prod.snd ++
          found))) _ rest := Reads.answerIf given tail
    simpa [patternEntry] using read

/-- The statements on a command. -/
theorem reads_commands {profile : PrivilegeProfile} (readable : Readable profile)
    (after : List Token) :
    Reads ((commandEntries profile).flatMap Prod.snd ++ .symbol '\x7d' :: after)
      (commandStatements profile) (.symbol '\x7d' :: after) := by
  unfold commandEntries commandStatements
  split
  · exact Reads.answer .permit (reads_closing after)
  · have last : Reads (.word "deny" :: .symbol '\x7d' :: after) [.answer .deny]
        (.symbol '\x7d' :: after) := Reads.answer .deny (reads_closing after)
    have permits := reads_patterns .permit
      (fun pattern listed => readable.wellFormed pattern (List.mem_append_right _ listed))
      (fun pattern listed => readable.unescaped pattern (List.mem_append_right _ listed)) last
    have denials := reads_patterns .deny
      (fun pattern listed => readable.wellFormed pattern (List.mem_append_left _ listed))
      (fun pattern listed => readable.unescaped pattern (List.mem_append_left _ listed)) permits
    simpa using denials

/-- The statements of the session block. -/
theorem reads_session (profile : PrivilegeProfile) (after : List Token) :
    Reads (.word "set" :: .word "priv-lvl" :: .symbol '=' ::
        .word (toString profile.tacacsPrivLvl) ::
          ((profile.extraAvPairs.items.map extraEntry).flatMap Prod.snd ++
            .word "permit" :: .symbol '\x7d' :: after))
      (sets (sessionSettings profile) ++ [.answer .permit]) (.symbol '\x7d' :: after) := by
  have numerals : ∀ number : Nat, number < 16 →
      decimal (toString (number : Int)) = (some number : Option Nat) := by decide
  have range := profile.privLvlRange
  have small : profile.tacacsPrivLvl.toNat < 16 := by omega
  have same : ((profile.tacacsPrivLvl.toNat : Nat) : Int) = profile.tacacsPrivLvl := by omega
  have level : readValue (.word (toString profile.tacacsPrivLvl)) =
      some (.number profile.tacacsPrivLvl) := by
    have numeral := numerals profile.tacacsPrivLvl.toNat small
    rw [same] at numeral
    rw [readValue, numeral, Option.map_some, same]
  have last : Reads (.word "permit" :: .symbol '\x7d' :: after) [.answer .permit]
      (.symbol '\x7d' :: after) := Reads.answer .permit (reads_closing after)
  have extras := reads_extras profile.extraAvPairs.items last
  have script : sets (sessionSettings profile) ++ [.answer .permit] =
      (.set "priv-lvl" (.number profile.tacacsPrivLvl) ::
        ((profile.extraAvPairs.items.map fun entry =>
          (.set entry.1 (.quoted entry.2) : ScriptStatement)) ++ [.answer .permit])) := by
    rw [sets, sessionSettings, List.map_cons, List.map_map, List.cons_append]
    rfl
  rw [script]
  exact Reads.set level extras

/-- The tokens between the opening and the closing read as the script. -/
theorem reads_tacprofileScript {profile : PrivilegeProfile} (readable : Readable profile) :
    ∃ inner, (profileEntries profile).flatMap Prod.snd = openingTokens ++ inner ∧
      Reads inner (tacprofileScript profile) closingTokens := by
  refine ⟨((profileEntries profile).flatMap Prod.snd).drop openingTokens.length, ?_, ?_⟩
  · rfl
  · have tail : Reads (.word "deny" :: closingTokens) [.answer .deny] closingTokens :=
      Reads.answer .deny (reads_closing _)
    have commands := reads_commands readable (.word "deny" :: closingTokens)
    have session := reads_session profile ((commandEntries profile).flatMap Prod.snd ++
      .symbol '\x7d' :: .word "deny" :: closingTokens)
    have shell : readCondition "service" '=' (.word "shell") = some (.service "shell") := rfl
    have empty : readCondition "cmd" '=' (.quoted '"' []) = some .emptyCmd := rfl
    have all := Reads.block shell (Reads.block empty session commands) tail
    simpa [profileEntries, guardTokens, openingTokens, closingTokens, tacprofileScript] using all

/-- The rendered text reads as the script of the profile. -/
theorem readScriptText_rendered {profile : PrivilegeProfile} (readable : Readable profile) :
    readScriptText (renderTacprofile profile) = some (tacprofileScript profile) := by
  obtain ⟨inner, parts, reads⟩ := reads_tacprofileScript readable
  have enough : inner.length < (openingTokens ++ inner).length := by
    rw [List.length_append]
    simp [openingTokens]
  have opened : openingTokens.isPrefixOf (openingTokens ++ inner) = true :=
    List.isPrefixOf_iff_prefix.mpr (List.prefix_append _ _)
  rw [readScriptText, tokens_renderTacprofile readable, parts, Option.bind_some, if_pos opened,
    List.drop_left, reads.read _ enough, Option.bind_some, if_pos rfl]

/-- The pattern of the sample profile is well formed and escapes nothing. -/
theorem readOnly_pattern (key value : String) :
    ∀ pattern ∈ patternsOf ((readOnly key value).row 1),
      WellFormedPattern pattern ∧ ¬EscapesSlash pattern := by
  intro pattern listed
  have own : split false "^show".toList =
    some [.plain '^', .plain 's', .plain 'h', .plain 'o', .plain 'w'] := by decide
  have same : pattern = "^show" := List.mem_singleton.mp listed
  rw [same]
  constructor
  · decide
  · intro escapes
    obtain ⟨pieces, parted, slash⟩ := escapes
    rw [own] at parted
    cases parted
    revert slash
    decide

/-- Over
well-formed patterns that escape no slash, the rendered text reads as the script of the profile,
every value, key and pattern as stored, if and only if every key of the further attributes is an
identifier. -/
theorem readScriptText_iff (profile : PrivilegeProfile)
    (wellFormed : ∀ pattern ∈ patternsOf profile, WellFormedPattern pattern)
    (unescaped : ∀ pattern ∈ patternsOf profile, ¬EscapesSlash pattern) :
    readScriptText (renderTacprofile profile) = some (tacprofileScript profile) ↔
      ∀ key ∈ profile.extraAvPairs.keys, IsIdentifier key := by
  constructor
  · intro done key listed
    have named := isIdentifier_of_readScriptText done key
    rw [namesAll_tacprofileScript] at named
    exact named (List.mem_cons_of_mem _ listed)
  · intro keys
    exact readScriptText_rendered ⟨keys, wellFormed, unescaped⟩

/-- A profile with quotes, braces and newlines in its value and its pattern. -/
theorem readScriptText_readOnly :
    readScriptText (renderTacprofile ((readOnly "autocmd" "a\"\n\x7d permit \\").row 1)) =
        some (tacprofileScript ((readOnly "autocmd" "a\"\n\x7d permit \\").row 1)) ↔
      ∀ key ∈ ((readOnly "autocmd" "a\"\n\x7d permit \\").row 1).extraAvPairs.keys,
        IsIdentifier key := by
  apply readScriptText_iff
  · intro pattern listed
    exact (readOnly_pattern _ _ pattern listed).1
  · intro pattern listed
    exact (readOnly_pattern _ _ pattern listed).2

/-- A key with a value and a newline of its own adds a statement: the text of this accepted profile
does not read as its script. -/
theorem key_adds_statement :
    ¬ ∀ (printable : Char → Bool) (ctx : SessionContext) (profile : PrivilegeProfile),
      ReachableProfile printable ctx profile →
        (∀ pattern ∈ patternsOf profile, WellFormedPattern pattern) →
          (∀ pattern ∈ patternsOf profile, ¬EscapesSlash pattern) →
            readScriptText (renderTacprofile profile) = some (tacprofileScript profile) := by
  intro claimed
  have done := claimed (fun _ => true) ⟨"ops", "admin", "local", none, none, none⟩
    ((readOnly "priv-lvl = 15\nset idletime" "30").row 1)
    ⟨[.create (readOnly "priv-lvl = 15\nset idletime" "30")], _, rfl, by decide⟩ ?_ ?_
  · have named := isIdentifier_of_readScriptText done "priv-lvl = 15\nset idletime"
    rw [namesAll_tacprofileScript] at named
    have chars := (named (by decide)).2
    have blank := chars ' ' (by decide)
    revert blank
    decide
  · intro pattern listed
    exact (readOnly_pattern _ _ pattern listed).1
  · intro pattern listed
    exact (readOnly_pattern _ _ pattern listed).2

end TacacsWeb.Verif
