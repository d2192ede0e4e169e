import Mathlib.Data.List.Chain
import TacacsWeb.Verif.ScriptReader

/-!
# Keys that are no identifiers

A key without a blank, a line end, a quote or a slash adds no statement of its own, since a statement
needs a blank between its keyword and its name. So where the text of a profile with such keys reads
as a script at all, every key is an identifier.
-/

namespace TacacsWeb.Verif

open TacacsWeb.Library TacacsWeb.Library.AttributeScript TacacsWeb.Library.Lexer
open TacacsWeb.Library.Text TacacsWeb.Model

/-- A key that neither parts a line nor opens a delimited text. -/
def PlainKey (key : String) : Prop :=
  ∀ char ∈ key.toList, scriptRules.isSpace char = false ∧ scriptRules.isDelimiter char = false

instance (key : String) : Decidable (PlainKey key) :=
  List.decidableBAll _ key.toList

/-! ## What a script expects -/

/-- What may come next in a script. -/
inductive Expected where
  /-- A keyword, or the end of a block. -/
  | statement
  /-- The name behind `set`. -/
  | name
  /-- The sign behind it. -/
  | assignment
  /-- The value. -/
  | value
  /-- The parenthesis behind `if`. -/
  | opening
  /-- What a condition is about. -/
  | subject
  /-- The sign behind it. -/
  | comparison
  /-- The second character of the comparison. -/
  | operator
  /-- What it compares with. -/
  | operand
  /-- The parenthesis behind it. -/
  | closing
  /-- The answer or the block behind a condition. -/
  | guarded
deriving DecidableEq

/-- What comes next behind a token, none when the token is out of place. -/
def expect : Expected → Token → Option Expected
  | .statement, .word keyword =>
    if keyword = "set" then some .name
    else if keyword = "if" then some .opening
    else some .statement
  | .statement, .symbol char => if char = '\x7d' then some .statement else none
  | .name, .word _ => some .assignment
  | .assignment, .symbol char => if char = '=' then some .value else none
  | .value, .word _ => some .statement
  | .value, .quoted _ _ => some .statement
  | .opening, .symbol char => if char = '(' then some .subject else none
  | .subject, .word _ => some .comparison
  | .comparison, .symbol char => if char = '=' then some .operator else none
  | .operator, .symbol _ => some .operand
  | .operand, .word _ => some .closing
  | .operand, .quoted _ _ => some .closing
  | .closing, .symbol char => if char = ')' then some .guarded else none
  | .guarded, .word _ => some .statement
  | .guarded, .symbol char => if char = '\x7b' then some .statement else none
  | _, _ => none

/-- What comes next behind some tokens. -/
def follow (expected : Expected) (found : List Token) : Option Expected :=
  found.foldlM expect expected

/-- What comes next behind a token and others. -/
theorem follow_cons (expected : Expected) (token : Token) (found : List Token) :
    follow expected (token :: found) =
      (expect expected token).bind fun next => follow next found := rfl

/-- What comes next behind two lists of tokens. -/
theorem follow_append (expected : Expected) (first second : List Token) :
    follow expected (first ++ second) =
      (follow expected first).bind fun next => follow next second := List.foldlM_append

/-- A keyword that answers is followed by another statement. -/
theorem expect_verdict {keyword : String} {verdict : Verdict}
    (read : readVerdict keyword = some verdict) :
    expect .statement (.word keyword) = some .statement := by
  unfold readVerdict at read
  split at read
  · rename_i permit
    rw [permit]
    rfl
  · split at read
    · rename_i deny
      rw [deny]
      rfl
    · cases read

/-- A value is a word or a quoted text. -/
theorem expect_value {token : Token} {value : ScriptValue} (read : readValue token = some value) :
    expect .value token = some .statement := by
  cases token with
  | word text => rfl
  | quoted delimiter pieces => rfl
  | symbol char => cases read

/-- An operand is a word or a quoted text. -/
theorem expect_operand {subject : String} {operator : Char} {token : Token}
    {condition : ScriptCondition} (read : readCondition subject operator token = some condition) :
    expect .operand token = some .closing := by
  cases token with
  | word text => rfl
  | quoted delimiter pieces => rfl
  | symbol char => cases read

/-- An assignment is followed by another statement. -/
theorem follow_set {token : Token} {value : ScriptValue} (given : readValue token = some value)
    (name : String) (rest : List Token) :
    follow .statement (.word "set" :: .word name :: .symbol '=' :: token :: rest) =
      follow .statement rest := by
  have stepped : follow .statement (.word "set" :: .word name :: .symbol '=' :: token :: rest) =
      (expect .value token).bind fun next => follow next rest := rfl
  rw [stepped, expect_value given]
  rfl

/-- A condition is followed by an answer or a block. -/
theorem follow_guard {subject : String} {operator : Char} {operand : Token}
    {condition : ScriptCondition}
    (given : readCondition subject operator operand = some condition) (rest : List Token) :
    follow .statement (.word "if" :: .symbol '(' :: .word subject :: .symbol '=' ::
        .symbol operator :: operand :: .symbol ')' :: rest) = follow .guarded rest := by
  have stepped : follow .statement (.word "if" :: .symbol '(' :: .word subject :: .symbol '=' ::
      .symbol operator :: operand :: .symbol ')' :: rest) =
      (expect .operand operand).bind fun next => follow next (.symbol ')' :: rest) := rfl
  rw [stepped, expect_operand given]
  rfl

/-- A statement that is read follows what a script expects. -/
theorem readStatement_follow {read : List Token → Option (List ScriptStatement × List Token)}
    (inner : ∀ found script rest, read found = some (script, rest) →
      follow .statement found = follow .statement rest)
    {keyword : String} {found rest : List Token} {statement : ScriptStatement}
    (done : readStatement read keyword found = some (statement, rest)) :
    follow .statement (.word keyword :: found) = follow .statement rest := by
  unfold readStatement at done
  split at done
  · rename_i keyword
    rw [keyword]
    unfold readSet at done
    split at done
    · obtain ⟨value, given, same⟩ := Option.map_eq_some_iff.mp done
      cases same
      exact follow_set given _ _
    · cases done
  split at done
  · rename_i keyword
    rw [keyword]
    unfold readIf at done
    split at done
    · split at done
      · obtain ⟨condition, given, done⟩ := Option.bind_eq_some_iff.mp done
        rw [follow_guard given]
        unfold readGuarded at done
        split at done
        · obtain ⟨verdict, -, same⟩ := Option.map_eq_some_iff.mp done
          cases same
          rfl
        · obtain ⟨⟨body, after⟩, block, done⟩ := Option.bind_eq_some_iff.mp done
          have inside := inner _ _ _ block
          simp only at done
          split at done
          · cases done
            exact inside
          · cases done
        · cases done
      · cases done
    · cases done
  · obtain ⟨verdict, given, same⟩ := Option.map_eq_some_iff.mp done
    cases same
    rw [follow_cons, expect_verdict given]
    rfl

/-- A script that is read follows what a script expects. -/
theorem readScript_follow {bound : Nat} {found rest : List Token} {script : List ScriptStatement}
    (done : readScript bound found = some (script, rest)) :
    follow .statement found = follow .statement rest := by
  induction bound generalizing found script rest with
  | zero => cases done
  | succ bound ih =>
    have ended : (some ([], found) : Option (List ScriptStatement × List Token)) =
        some (script, rest) → follow .statement found = follow .statement rest := by
      intro same
      cases same
      rfl
    cases found with
    | nil => exact ended done
    | cons token later =>
      cases token with
      | quoted delimiter pieces => exact ended done
      | symbol char => exact ended done
      | word keyword =>
        obtain ⟨⟨statement, after⟩, first, done⟩ := Option.bind_eq_some_iff.mp done
        obtain ⟨⟨others, left⟩, tail, same⟩ := Option.map_eq_some_iff.mp done
        cases same
        exact (readStatement_follow (fun _ _ _ read => ih read) first).trans (ih tail)

/-! ## The tokens of a key -/

/-- Two tokens are not both words. -/
def NotBothWords (first second : Token) : Prop :=
  ∀ left right, ¬(first = .word left ∧ second = .word right)

/-- A text without blanks has no two words in a row, and it begins with one only if its first
character is one of a word. -/
theorem tokens_alternate {bound : Nat} {chars : List Char} {found : List Token}
    (plain : ∀ char ∈ chars, scriptRules.isSpace char = false ∧
      scriptRules.isDelimiter char = false)
    (read : tokensWithin scriptRules bound chars = some found) :
    found.IsChain NotBothWords ∧
      (EndsWord scriptRules chars → ∀ text, found.head? ≠ some (.word text)) := by
  induction bound generalizing chars found with
  | zero =>
    cases chars with
    | nil =>
      cases read
      refine ⟨.nil, fun _ _ absurdity => ?_⟩
      cases absurdity
    | cons char chars => cases read
  | succ bound ih =>
    cases chars with
    | nil =>
      cases read
      refine ⟨.nil, fun _ _ absurdity => ?_⟩
      cases absurdity
    | cons char chars =>
      obtain ⟨notBlank, notDelimiter⟩ := plain char List.mem_cons_self
      have others : ∀ other ∈ chars, scriptRules.isSpace other = false ∧
          scriptRules.isDelimiter other = false :=
        fun other listed => plain other (List.mem_cons_of_mem _ listed)
      rw [tokensWithin, if_neg (by simp [notBlank]), if_neg (by simp [notDelimiter])] at read
      split at read
      · rename_i isWord
        obtain ⟨later, read, same⟩ := Option.map_eq_some_iff.mp read
        rw [← same]
        obtain ⟨chain, first⟩ := ih (fun other listed => others other
          ((List.dropWhile_sublist _).subset listed)) read
        have stopped : EndsWord scriptRules (chars.dropWhile scriptRules.isWord) := by
          intro next listed
          have ends := List.head?_dropWhile_not scriptRules.isWord chars
          rw [Option.mem_def.mp listed] at ends
          simpa using ends
        constructor
        · rw [List.isChain_cons]
          refine ⟨fun next listed left right both => ?_, chain⟩
          rw [both.2] at listed
          exact first stopped right listed
        · intro ends
          have other : scriptRules.isWord char = false := ends char rfl
          rw [isWord] at other
          cases other
      split at read
      · obtain ⟨later, read, same⟩ := Option.map_eq_some_iff.mp read
        rw [← same]
        obtain ⟨chain, -⟩ := ih others read
        constructor
        · rw [List.isChain_cons]
          refine ⟨fun next _ left right both => ?_, chain⟩
          cases both.1
        · intro _ text absurdity
          cases absurdity
      · cases read

/-- Tokens without two words in a row that lead from the name to the sign of an assignment are one
word. -/
theorem word_of_follow {found : List Token} (chain : found.IsChain NotBothWords)
    (led : follow .name found = some .assignment) : ∃ text, found = [.word text] := by
  rcases List.eq_nil_or_concat' found with rfl | ⟨front, last, rfl⟩
  · cases led
  rw [follow_append] at led
  obtain ⟨before, start, step⟩ := Option.bind_eq_some_iff.mp led
  have final : expect before last = some .assignment := by
    rw [follow_cons] at step
    obtain ⟨next, taken, same⟩ := Option.bind_eq_some_iff.mp step
    rw [taken, ← Option.some.inj same]
  have ended : before = .name ∧ ∃ text, last = .word text := by
    cases before <;> cases last <;> simp [expect] at final ⊢
    all_goals split at final <;> first | cases final | split at final <;> cases final
  obtain ⟨rfl, text, rfl⟩ := ended
  rcases List.eq_nil_or_concat' front with rfl | ⟨earlier, keyword, rfl⟩
  · exact ⟨text, rfl⟩
  · exfalso
    rw [follow_append] at start
    obtain ⟨state, -, step⟩ := Option.bind_eq_some_iff.mp start
    have set : expect state keyword = some .name := by
      rw [follow_cons] at step
      obtain ⟨next, taken, same⟩ := Option.bind_eq_some_iff.mp step
      rw [taken, ← Option.some.inj same]
    have isKeyword : ∃ left, keyword = .word left := by
      cases state <;> cases keyword <;> simp [expect] at set ⊢
    obtain ⟨left, rfl⟩ := isKeyword
    rw [List.append_assoc] at chain
    have pair : [Token.word left, .word text].IsChain NotBothWords := chain.right_of_append
    rw [List.isChain_cons_cons] at pair
    exact pair.1 left text ⟨rfl, rfl⟩

/-- A text without blanks that has no tokens is empty. -/
theorem nil_of_no_tokens {bound : Nat} {chars : List Char}
    (plain : ∀ char ∈ chars, scriptRules.isSpace char = false ∧
      scriptRules.isDelimiter char = false)
    (read : tokensWithin scriptRules bound chars = some []) : chars = [] := by
  cases chars with
  | nil => rfl
  | cons char chars =>
    exfalso
    obtain ⟨notBlank, notDelimiter⟩ := plain char List.mem_cons_self
    cases bound with
    | zero => cases read
    | succ bound =>
      rw [tokensWithin, if_neg (by simp [notBlank]), if_neg (by simp [notDelimiter])] at read
      split at read
      · obtain ⟨later, -, same⟩ := Option.map_eq_some_iff.mp read
        cases same
      split at read
      · obtain ⟨later, -, same⟩ := Option.map_eq_some_iff.mp read
        cases same
      · cases read

/-- A key that is one token, a word, is an identifier. -/
theorem isIdentifier_of_word {key text : String} {bound : Nat} (plain : PlainKey key)
    (read : tokensWithin scriptRules bound key.toList = some [.word text]) : IsIdentifier key := by
  obtain ⟨nonempty, letters⟩ := word_of_mem read List.mem_cons_self
  have same : key.toList = text.toList := by
    unfold PlainKey at plain
    generalize key.toList = chars at plain read
    cases chars with
    | nil => cases bound <;> cases read
    | cons char chars =>
      obtain ⟨notBlank, notDelimiter⟩ := plain char List.mem_cons_self
      cases bound with
      | zero => cases read
      | succ bound =>
        rw [tokensWithin, if_neg (by simp [notBlank]), if_neg (by simp [notDelimiter])] at read
        split at read
        · obtain ⟨later, read, same⟩ := Option.map_eq_some_iff.mp read
          obtain ⟨first, rfl⟩ := List.cons.inj same
          have left := nil_of_no_tokens (fun other listed => plain other
            (List.mem_cons_of_mem _ ((List.dropWhile_sublist _).subset listed))) read
          have whole := @List.takeWhile_append_dropWhile _ scriptRules.isWord chars
          rw [left, List.append_nil] at whole
          rw [← Token.word.inj first, String.toList_ofList, whole]
        split at read
        · obtain ⟨later, -, same⟩ := Option.map_eq_some_iff.mp read
          cases same
        · cases read
  constructor
  · intro empty
    rw [empty] at same
    exact nonempty (String.toList_eq_nil_iff.mp same.symm)
  · rw [same]
    exact letters

/-! ## The tokens of a further attribute -/

/-- The line of a further attribute behind its key. -/
def assignedText (entry : String × String) : List Char :=
  (" = \"" ++ escapeDoubleQuote entry.2 ++ "\"").toList

/-- The line of a further attribute, behind a line end. -/
theorem entryText_parts (entry : String × String) (rest : List Char) :
    '\n' :: (extraAvLine entry).toList ++ rest =
      ("\n" ++ indent5 ++ "set").toList ++
        (' ' :: entry.1.toList ++ (assignedText entry ++ rest)) := by
  have opened : "set " = "set" ++ " " := rfl
  have newline : "\n".toList = ['\n'] := rfl
  rw [extraAvLine, assignedText, opened]
  simp [newline]

/-- What is behind a key is an assignment of a quoted text. -/
theorem lexes_assignedText (entry : String × String) :
    Lexes scriptRules (assignedText entry)
      [.symbol '=', .quoted '"' (entry.2.toList.map (protectedPiece '"'))] := by
  have protectedText : (escapeDoubleQuote entry.2).toList =
      (entry.2.toList.map (protectedPiece '"')).flatMap Piece.text :=
    toList_replaceChar_protected (by decide) rfl entry.2
  have written : assignedText entry =
      " = ".toList ++ '"' :: ((escapeDoubleQuote entry.2).toList ++ ['"']) := by
    have opened : " = \"" = " = " ++ "\"" := rfl
    rw [assignedText, opened]
    simp
  have value : Lexes scriptRules ('"' :: ((escapeDoubleQuote entry.2).toList ++ ['"']))
      [.quoted '"' (entry.2.toList.map (protectedPiece '"'))] := by
    rw [protectedText]
    exact Lexes.quoted rfl (scan_protected _ (by decide)) lexes_nil
  rw [written]
  exact Lexes.prefixed " = " [.symbol '='] (by decide) (by decide) value

/-- A plain key leaves a reader between tokens. -/
theorem goThrough_plainKey {chars : List Char} {place : Place}
    (plain : ∀ char ∈ chars, scriptRules.isDelimiter char = false)
    (moved : goThrough scriptRules .outside chars = some place) : place = .outside := by
  induction chars with
  | nil => exact (Option.some.inj moved).symm
  | cons char chars ih =>
    have notDelimiter := plain char List.mem_cons_self
    rw [goThrough_cons] at moved
    obtain ⟨next, step, moved⟩ := Option.bind_eq_some_iff.mp moved
    rw [advance] at step
    split at step
    · obtain rfl := Option.some.inj step
      exact ih (fun other listed => plain other (List.mem_cons_of_mem _ listed)) moved
    · rw [notDelimiter] at step
      cases step

/-- A key with the blank before it leaves a reader between tokens where what follows can be read. -/
theorem goThrough_blankKey {key : String} {bound : Nat} {rest : List Char} {found : List Token}
    (plain : PlainKey key)
    (read : tokensWithin scriptRules bound (' ' :: key.toList ++ rest) = some found) :
    goThrough scriptRules .outside (' ' :: key.toList) = some .outside := by
  have through := goThrough_of_tokensWithin read
  rw [goThrough_append] at through
  obtain ⟨place, moved, -⟩ := Option.bind_eq_some_iff.mp through
  have noDelimiter : ∀ char ∈ ' ' :: key.toList, scriptRules.isDelimiter char = false := by
    intro char listed
    rcases List.mem_cons.mp listed with rfl | listed
    · decide
    · exact (plain char listed).2
  rw [moved, goThrough_plainKey noDelimiter moved]

/-- What is behind a key begins with a blank. -/
theorem endsWord_assignedText (entry : String × String) (rest : List Char) :
    EndsWord scriptRules (assignedText entry ++ rest) := by
  have opened : " = \"" = " " ++ "= \"" := rfl
  have begins : assignedText entry ++ rest =
      ' ' :: (("= \"" ++ escapeDoubleQuote entry.2 ++ "\"").toList ++ rest) := by
    rw [assignedText, opened]
    simp
  rw [begins]
  exact endsWord_cons (by decide)

/-- The tokens of the line of a further attribute, whatever its key is read as. -/
theorem tokens_entryText {entry : String × String} {bound : Nat} {rest : List Char}
    {found : List Token} (plain : PlainKey entry.1) (ends : EndsWord scriptRules rest)
    (read : tokensWithin scriptRules bound ('\n' :: (extraAvLine entry).toList ++ rest) =
      some found) :
    ∃ named pieces later, (∃ left, tokensWithin scriptRules left entry.1.toList = some named) ∧
      (∃ left, tokensWithin scriptRules left rest = some later) ∧
      found = .word "set" :: (named ++ .symbol '=' :: .quoted '"' pieces :: later) := by
  rw [entryText_parts] at read
  have keyword : tokens scriptRules ("\n" ++ indent5 ++ "set").toList = some [.word "set"] := by
    decide
  have blank : EndsWord scriptRules (' ' :: entry.1.toList ++ (assignedText entry ++ rest)) :=
    endsWord_cons (by decide)
  obtain ⟨first, behind, firstRead, ⟨keyBound, keyRead⟩, rfl⟩ :=
    tokensWithin_append read (goThrough_of_tokens keyword) blank
  obtain rfl := tokensWithin_unique firstRead keyword
  have between := goThrough_blankKey plain keyRead
  have assigns := lexes_assignedText entry
  have sign := endsWord_assignedText entry rest
  obtain ⟨named, tail, namedRead, ⟨tailBound, tailRead⟩, rfl⟩ :=
    tokensWithin_append keyRead between sign
  obtain ⟨second, later, secondRead, laterRead, rfl⟩ :=
    tokensWithin_append tailRead (goThrough_of_tokens assigns.tokens_eq) ends
  obtain rfl := tokensWithin_unique secondRead assigns.tokens_eq
  refine ⟨named, _, later, ?_, laterRead, rfl⟩
  cases keyBound with
  | zero => cases namedRead
  | succ keyBound => exact ⟨keyBound, namedRead⟩

/-- Behind a quoted text, a statement or the end of a condition comes next. -/
theorem expect_quoted {expected next : Expected} {delimiter : Char} {pieces : List Piece}
    (taken : expect expected (.quoted delimiter pieces) = some next) :
    next = .statement ∧ expected = .value ∨ next = .closing := by
  cases expected <;> cases taken
  · exact .inl ⟨rfl, rfl⟩
  · exact .inr rfl

/-- Only the sign of an assignment is followed by its value. -/
theorem expect_sign {expected : Expected}
    (taken : expect expected (.symbol '=') = some .value) : expected = .assignment := by
  cases expected <;> first | rfl | cases taken

/-- Where a script goes on behind the lines of further attributes, their keys are identifiers. -/
theorem isIdentifier_of_follow {entries : List (String × String)} {rest : List Char}
    (plain : ∀ entry ∈ entries, PlainKey entry.1) (ends : EndsWord scriptRules rest)
    (keyword : ∀ bound later, tokensWithin scriptRules bound rest = some later →
      ∃ text more, later = .word text :: more)
    {bound : Nat} {found : List Token} (read : tokensWithin scriptRules bound
      ((entries.flatMap fun entry => '\n' :: (extraAvLine entry).toList) ++ rest) = some found)
    {expected final : Expected} (placed : expected = .statement ∨ expected = .closing)
    (followed : follow expected found = some final) :
    expected = .statement ∧ ∀ entry ∈ entries, IsIdentifier entry.1 := by
  induction entries generalizing bound found expected with
  | nil =>
    obtain ⟨text, more, rfl⟩ := keyword bound found read
    rcases placed with rfl | rfl
    · exact ⟨rfl, fun _ listed => absurd listed List.not_mem_nil⟩
    · cases followed
  | cons entry entries ih =>
    have own := plain entry List.mem_cons_self
    rw [List.flatMap_cons, List.append_assoc] at read
    have newline : EndsWord scriptRules ((entries.flatMap fun entry =>
        '\n' :: (extraAvLine entry).toList) ++ rest) := by
      cases entries with
      | nil => exact ends
      | cons => exact endsWord_cons (by decide)
    obtain ⟨named, pieces, later, ⟨keyBound, keyRead⟩, ⟨laterBound, laterRead⟩, rfl⟩ :=
      tokens_entryText own newline read
    rcases placed with rfl | rfl
    · have behind : follow .name (named ++ .symbol '=' :: .quoted '"' pieces :: later) =
          some final := followed
      rw [follow_append] at behind
      obtain ⟨sign, led, behind⟩ := Option.bind_eq_some_iff.mp behind
      rw [follow_cons] at behind
      obtain ⟨middle, signTaken, behind⟩ := Option.bind_eq_some_iff.mp behind
      rw [follow_cons] at behind
      obtain ⟨next, quotedTaken, behind⟩ := Option.bind_eq_some_iff.mp behind
      have cases' := expect_quoted quotedTaken
      obtain ⟨rfl, others⟩ := ih (fun other listed => plain other (List.mem_cons_of_mem _ listed))
        laterRead (cases'.imp_left And.left) behind
      have isValue : middle = .value := by
        rcases cases' with ⟨-, same⟩ | absurdity
        · exact same
        · cases absurdity
      rw [isValue] at signTaken
      rw [expect_sign signTaken] at led
      obtain ⟨text, rfl⟩ := word_of_follow (tokens_alternate own keyRead).1 led
      refine ⟨rfl, fun other listed => ?_⟩
      rcases List.mem_cons.mp listed with rfl | listed
      · exact isIdentifier_of_word own keyRead
      · exact others other listed
    · cases followed

/-! ## The whole text -/

/-- The lines before the further attributes, with their tokens. -/
def frontEntries (profile : PrivilegeProfile) : List (String × List Token) :=
  [lineOf "\x7b" [.symbol '\x7b'], lineOf "    profile \x7b" [.word "profile", .symbol '\x7b'],
    lineOf "        script \x7b" [.word "script", .symbol '\x7b'],
    lineOf (indent3 ++ "if (service == shell) \x7b")
      (.word "if" :: (guardTokens "service" '=' (.word "shell") ++ [.symbol '\x7b'])),
    lineOf (indent4 ++ "if (cmd == \"\") \x7b")
      (.word "if" :: (guardTokens "cmd" '=' (.quoted '"' []) ++ [.symbol '\x7b'])),
    lineOf (indent5 ++ "set priv-lvl = " ++ toString profile.tacacsPrivLvl)
      [.word "set", .word "priv-lvl", .symbol '=', .word (toString profile.tacacsPrivLvl)]]

/-- The lines before the further attributes have their tokens. -/
theorem frontEntries_lex (profile : PrivilegeProfile) :
    ∀ entry ∈ frontEntries profile, LineLexes scriptRules entry.1 entry.2 := by
  intro entry listed
  rw [← List.take_append_drop 5 (frontEntries profile)] at listed
  rcases List.mem_append.mp listed with fixed | level
  · have lexed : ∀ entry ∈ (frontEntries profile).take 5,
        tokens scriptRules entry.1.toList = some entry.2 := by
      simp only [frontEntries, List.take_succ_cons, List.take_zero]
      decide
    exact lineLexes_of_tokens (lexed entry fixed)
  · rw [List.mem_singleton.mp level]
    exact lineLexes_privLvl profile.privLvlRange

/-- The text is that of the first lines, of the further attributes, and of the rest of the session
block, which begins with the permission. -/
theorem renderTacprofile_parts (profile : PrivilegeProfile) :
    ∃ rest, (renderTacprofile profile).toList =
      (['\n'].intercalate ((frontEntries profile).map fun entry => entry.1.toList)) ++
        ((profile.extraAvPairs.items.flatMap fun entry => '\n' :: (extraAvLine entry).toList) ++
          (("\n" ++ indent5 ++ "permit").toList ++ '\n' :: rest)) := by
  let back : List String := perCommandLines profile ++ [indent3 ++ "\x7d", indent3 ++ "deny",
    "        \x7d", "    \x7d", "\x7d"]
  refine ⟨(indent4 ++ "\x7d").toList ++ back.flatMap (fun line => '\n' :: line.toList), ?_⟩
  have newline : "\n".toList = ['\n'] := rfl
  rw [renderTacprofile, String.toList_intercalate, newline, shellSessionBlock]
  simp only [List.cons_append, List.nil_append, List.map_cons, intercalate_cons, frontEntries,
    List.map_nil, List.map_append, List.flatMap_append, List.flatMap_cons, List.flatMap_nil,
    List.flatMap_map, List.append_assoc, List.append_nil, String.toList_append, newline, back]

/-- A text that reads as a script, under keys without blanks, quotes and slashes, has keys that are
identifiers. -/
theorem isIdentifier_of_plainKeys {profile : PrivilegeProfile} {script : List ScriptStatement}
    (plain : ∀ key ∈ profile.extraAvPairs.keys, PlainKey key)
    (done : readScriptText (renderTacprofile profile) = some script) :
    ∀ key ∈ profile.extraAvPairs.keys, IsIdentifier key := by
  obtain ⟨rest, written⟩ := renderTacprofile_parts profile
  have front := lexes_lines rfl (frontEntries_lex profile)
  unfold readScriptText at done
  obtain ⟨found, lexed, done⟩ := Option.bind_eq_some_iff.mp done
  rw [written, tokens] at lexed
  have permitted : tokens scriptRules ("\n" ++ indent5 ++ "permit").toList =
      some [.word "permit"] := by decide
  have ends : EndsWord scriptRules (("\n" ++ indent5 ++ "permit").toList ++ '\n' :: rest) :=
    endsWord_cons (by decide)
  have newline : EndsWord scriptRules ((profile.extraAvPairs.items.flatMap fun entry =>
      '\n' :: (extraAvLine entry).toList) ++
        (("\n" ++ indent5 ++ "permit").toList ++ '\n' :: rest)) := by
    cases profile.extraAvPairs.items with
    | nil => exact ends
    | cons => exact endsWord_cons (by decide)
  obtain ⟨first, later, firstRead, ⟨bound, laterRead⟩, rfl⟩ :=
    tokensWithin_append lexed (goThrough_of_tokens front.tokens_eq) newline
  obtain rfl := tokensWithin_unique firstRead front.tokens_eq
  split at done
  · obtain ⟨⟨body, left⟩, read, done⟩ := Option.bind_eq_some_iff.mp done
    split at done
    · rename_i closed
      have closed : left = closingTokens := closed
      rw [closed] at read
      have followed := readScript_follow read
      have behind : follow .statement later = some .statement := followed
      have keyword : ∀ bound later, tokensWithin scriptRules bound
          (("\n" ++ indent5 ++ "permit").toList ++ '\n' :: rest) = some later →
            ∃ text more, later = .word text :: more := by
        intro bound later read
        obtain ⟨word, more, wordRead, -, rfl⟩ := tokensWithin_append read
          (goThrough_of_tokens permitted) (endsWord_cons (by decide))
        obtain rfl := tokensWithin_unique wordRead permitted
        exact ⟨"permit", more, rfl⟩
      have identifiers := (isIdentifier_of_follow (fun entry listed => plain entry.1
        (List.mem_map_of_mem listed)) ends keyword laterRead (.inl rfl) behind).2
      intro key listed
      obtain ⟨entry, present, rfl⟩ := List.mem_map.mp listed
      exact identifiers entry present
    · cases done
  · cases done

end TacacsWeb.Verif
