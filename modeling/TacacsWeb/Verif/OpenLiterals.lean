import TacacsWeb.Verif.RegexLiterals

/-!
# Literals that do not close

A pattern with an escaped slash closes its literal early, and one that ends in a backslash does not
close it at all. From then on a reader takes the renderer's delimiters the wrong way round: outside
of a literal the renderer's backslashes are out of place, so the text never comes back in step, and
it has no tokens, whatever stands before the patterns.
-/

namespace TacacsWeb.Verif

open TacacsWeb.Library.Lexer TacacsWeb.Library.Text TacacsWeb.Model

/-- The literal of the pattern closes where the renderer closes it. -/
structure KeepsLiteral (pattern : String) : Prop where
  /-- Every backslash is followed by a character. -/
  wellFormed : WellFormedPattern pattern
  /-- No slash is escaped. -/
  unescaped : ¬EscapesSlash pattern

/-! ## Places in a rendered text -/

/-- A reader is not in the literal of a pattern. -/
def OffLiteral (place : Place) : Prop :=
  place = .outside ∨ place = .inside '"' ∨ place = .escaping '"'

/-- A reader is in a delimited text. -/
def Enclosed (place : Place) : Prop := place = .inside '/' ∨ place = .inside '"'

/-- The places of a reader of a profile. -/
def Possible (place : Place) : Prop :=
  OffLiteral place ∨ place = .inside '/' ∨ place = .escaping '/'

/-- The delimiters of a profile script. -/
theorem delimiter_cases {char : Char} (delimits : scriptRules.isDelimiter char = true) :
    char = '"' ∨ char = '/' := by
  have listed : char ∈ ['"', '/'] := List.contains_iff_mem.mp delimits
  simpa using listed

/-- Outside of a delimited text, a character leads nowhere but into one. -/
theorem advance_outside_cases {char : Char} {next : Place}
    (moved : advance scriptRules .outside char = some next) :
    next = .outside ∨ (char = '"' ∨ char = '/') ∧ next = .inside char := by
  rw [advance] at moved
  split at moved
  · exact .inl (Option.some.inj moved).symm
  · split at moved
    · rename_i delimits
      exact .inr ⟨delimiter_cases delimits, (Option.some.inj moved).symm⟩
    · cases moved

/-- A step in a delimited text. -/
theorem advance_inside_cases {delimiter char : Char} {next : Place}
    (moved : advance scriptRules (.inside delimiter) char = some next) :
    char = delimiter ∧ next = .outside ∨ char = '\\' ∧ next = .escaping delimiter ∨
      next = .inside delimiter := by
  rw [advance] at moved
  split at moved
  · rename_i closing
    exact .inl ⟨closing, (Option.some.inj moved).symm⟩
  · split at moved
    · rename_i backslash
      exact .inr (.inl ⟨backslash, (Option.some.inj moved).symm⟩)
    · exact .inr (.inr (Option.some.inj moved).symm)

/-- Every step leads to a place of a profile. -/
theorem advance_possible {place next : Place} {char : Char} (possible : Possible place)
    (moved : advance scriptRules place char = some next) : Possible next := by
  have insideCase : ∀ delimiter, (delimiter = '"' ∨ delimiter = '/') →
      advance scriptRules (.inside delimiter) char = some next → Possible next := by
    intro delimiter known step
    rcases advance_inside_cases step with ⟨-, rfl⟩ | ⟨-, rfl⟩ | rfl
    · exact .inl (.inl rfl)
    · rcases known with rfl | rfl
      · exact .inl (.inr (.inr rfl))
      · exact .inr (.inr rfl)
    · rcases known with rfl | rfl
      · exact .inl (.inr (.inl rfl))
      · exact .inr (.inl rfl)
  rcases possible with (rfl | rfl | rfl) | rfl | rfl
  · rcases advance_outside_cases moved with rfl | ⟨rfl | rfl, rfl⟩
    · exact .inl (.inl rfl)
    · exact .inl (.inr (.inl rfl))
    · exact .inr (.inl rfl)
  · exact insideCase '"' (.inl rfl) moved
  · obtain rfl := Option.some.inj moved
    exact .inl (.inr (.inl rfl))
  · exact insideCase '/' (.inr rfl) moved
  · obtain rfl := Option.some.inj moved
    exact .inr (.inl rfl)

/-- Every text leads to a place of a profile. -/
theorem goThrough_possible {place next : Place} {chars : List Char} (possible : Possible place)
    (moved : goThrough scriptRules place chars = some next) : Possible next := by
  induction chars generalizing place with
  | nil =>
    obtain rfl := Option.some.inj moved
    exact possible
  | cons char chars ih =>
    rw [goThrough_cons] at moved
    obtain ⟨middle, first, rest⟩ := Option.bind_eq_some_iff.mp moved
    exact ih (advance_possible possible first) rest

/-- Off the literals, no character but a slash leads into one. -/
theorem advance_offLiteral {place next : Place} {char : Char} (off : OffLiteral place)
    (noSlash : char ≠ '/') (moved : advance scriptRules place char = some next) :
    OffLiteral next := by
  rcases off with rfl | rfl | rfl
  · rcases advance_outside_cases moved with rfl | ⟨rfl | rfl, rfl⟩
    · exact .inl rfl
    · exact .inr (.inl rfl)
    · exact absurd rfl noSlash
  · rcases advance_inside_cases moved with ⟨-, rfl⟩ | ⟨-, rfl⟩ | rfl
    · exact .inl rfl
    · exact .inr (.inr rfl)
    · exact .inr (.inl rfl)
  · obtain rfl := Option.some.inj moved
    exact .inr (.inl rfl)

/-! ## A pattern -/

/-- The characters of an escaped text. -/
def escapedChars (chars : List Char) : List Char :=
  chars.flatMap fun char => if char = '/' then "\\/".toList else [char]

/-- The characters of an escaped pattern. -/
theorem toList_escapeRegexForScript (pattern : String) :
    (escapeRegexForScript pattern).toList = escapedChars pattern.toList :=
  toList_replaceChar ..

/-- A slash is escaped. -/
theorem escapedChars_slash (chars : List Char) :
    escapedChars ('/' :: chars) = '\\' :: '/' :: escapedChars chars := rfl

/-- Any other character stands for itself. -/
theorem escapedChars_other {char : Char} (noSlash : char ≠ '/') (chars : List Char) :
    escapedChars (char :: chars) = char :: escapedChars chars := by
  rw [escapedChars, List.flatMap_cons, if_neg noSlash]
  rfl

/-- Off the literals, an escaped text leads into none: the backslash of a slash is out of place
between tokens, and protects the slash in a quoted text. -/
theorem goThrough_escaped_off {place next : Place} {chars : List Char} (off : OffLiteral place)
    (moved : goThrough scriptRules place (escapedChars chars) = some next) : OffLiteral next := by
  induction chars generalizing place with
  | nil =>
    obtain rfl := Option.some.inj moved
    exact off
  | cons char chars ih =>
    by_cases slash : char = '/'
    · rw [slash, escapedChars_slash, goThrough_cons] at moved
      obtain ⟨first, backslash, moved⟩ := Option.bind_eq_some_iff.mp moved
      rw [goThrough_cons] at moved
      obtain ⟨second, behind, moved⟩ := Option.bind_eq_some_iff.mp moved
      rcases off with rfl | rfl | rfl
      · have outOfPlace : advance scriptRules .outside '\\' = none := by decide
        rw [outOfPlace] at backslash
        cases backslash
      · obtain rfl : .escaping '"' = first := Option.some.inj backslash
        obtain rfl : .inside '"' = second := Option.some.inj behind
        exact ih (.inr (.inl rfl)) moved
      · obtain rfl : .inside '"' = first := Option.some.inj backslash
        obtain rfl : .inside '"' = second := Option.some.inj behind
        exact ih (.inr (.inl rfl)) moved
    · rw [escapedChars_other slash, goThrough_cons] at moved
      obtain ⟨first, step, moved⟩ := Option.bind_eq_some_iff.mp moved
      exact ih (advance_offLiteral off slash step) moved

/-- The place of a reader in the literal of a pattern. -/
def literalPlace (isEscaped : Bool) : Place := if isEscaped then .escaping '/' else .inside '/'

/-- In the literal, an escaped text leaves a reader there only if it parts into pieces none of which
is an escaped slash. -/
theorem goThrough_escaped_in {isEscaped : Bool} {chars : List Char} {next : Place}
    (moved : goThrough scriptRules (literalPlace isEscaped) (escapedChars chars) = some next) :
    (next = .inside '/' ∧ ∃ pieces, split isEscaped chars = some pieces ∧ .escaped '/' ∉ pieces) ∨
      next = .escaping '/' ∨ OffLiteral next := by
  induction chars generalizing isEscaped with
  | nil =>
    obtain rfl := Option.some.inj moved
    cases isEscaped with
    | false => exact .inl ⟨rfl, [], rfl, List.not_mem_nil⟩
    | true => exact .inr (.inl rfl)
  | cons char chars ih =>
    by_cases slash : char = '/'
    · rw [slash, escapedChars_slash] at moved
      cases isEscaped with
      | true => exact .inr (.inr (goThrough_escaped_off (.inl rfl) moved))
      | false =>
        rcases @ih false moved with ⟨rfl, pieces, parted, absent⟩ | left
        · have found : split false (char :: chars) = some (.plain '/' :: pieces) := by
            rw [slash, split, if_neg (by decide), parted]
            rfl
          have still : .escaped '/' ∉ Piece.plain '/' :: pieces := by simp [absent]
          exact .inl ⟨rfl, _, found, still⟩
        · exact .inr left
    · rw [escapedChars_other slash, goThrough_cons] at moved
      cases isEscaped with
      | true =>
        rcases @ih false moved with ⟨rfl, pieces, parted, absent⟩ | left
        · have found : split true (char :: chars) = some (.escaped char :: pieces) := by
            rw [split, parted]
            rfl
          have still : .escaped '/' ∉ Piece.escaped char :: pieces := by
            simp [absent, Ne.symm slash]
          exact .inl ⟨rfl, _, found, still⟩
        · exact .inr left
      | false =>
        by_cases backslash : char = '\\'
        · rw [backslash] at moved
          rcases @ih true moved with ⟨rfl, pieces, parted, absent⟩ | left
          · have found : split false (char :: chars) = some pieces := by
              rw [split, if_pos backslash, parted]
            exact .inl ⟨rfl, pieces, found, absent⟩
          · exact .inr left
        · have stays :
              advance scriptRules (literalPlace false) char = some (literalPlace false) := by
            show advance scriptRules (.inside '/') char = some (.inside '/')
            rw [advance, if_neg slash, if_neg backslash]
          rw [stays] at moved
          rcases @ih false moved with ⟨rfl, pieces, parted, absent⟩ | left
          · have found : split false (char :: chars) = some (.plain char :: pieces) := by
              rw [split, if_neg backslash, parted]
              rfl
            have still : .escaped '/' ∉ Piece.plain char :: pieces := by simp [absent]
            exact .inl ⟨rfl, _, found, still⟩
          · exact .inr left

/-- The literal of a pattern leads from outside to outside only if it closes where the renderer
closes it; otherwise a reader is in a delimited text behind it. -/
theorem goThrough_literal {place next : Place} {pattern : String}
    (placed : place = .outside ∨ Enclosed place)
    (moved : goThrough scriptRules place (patternLiteral pattern) = some next) :
    next = .outside ∧ place = .outside ∧ KeepsLiteral pattern ∨ Enclosed next := by
  rw [patternLiteral, toList_escapeRegexForScript, goThrough_append, goThrough_cons] at moved
  obtain ⟨last, moved, closing⟩ := Option.bind_eq_some_iff.mp moved
  obtain ⟨first, opening, moved⟩ := Option.bind_eq_some_iff.mp moved
  have closed : advance scriptRules last '/' = some next := by
    rw [goThrough_cons] at closing
    obtain ⟨final, step, same⟩ := Option.bind_eq_some_iff.mp closing
    obtain rfl : final = next := Option.some.inj same
    exact step
  have fromOff : OffLiteral last → Enclosed next := by
    rintro (rfl | rfl | rfl)
    · obtain rfl : .inside '/' = next := Option.some.inj closed
      exact .inl rfl
    · obtain rfl : .inside '"' = next := Option.some.inj closed
      exact .inr rfl
    · obtain rfl : .inside '"' = next := Option.some.inj closed
      exact .inr rfl
  rcases placed with rfl | rfl | rfl
  · obtain rfl : .inside '/' = first := Option.some.inj opening
    rcases @goThrough_escaped_in false _ _ moved with
      ⟨rfl, pieces, parted, absent⟩ | rfl | off
    · obtain rfl : .outside = next := Option.some.inj closed
      have wellFormed : WellFormedPattern pattern := by
        rw [WellFormedPattern, parted]
        rfl
      have unescaped : ¬EscapesSlash pattern := by
        rintro ⟨others, alsoParted, listed⟩
        obtain rfl := Option.some.inj (parted.symm.trans alsoParted)
        exact absent listed
      exact .inl ⟨rfl, rfl, wellFormed, unescaped⟩
    · obtain rfl : .inside '/' = next := Option.some.inj closed
      exact .inr (.inl rfl)
    · exact .inr (fromOff off)
  · obtain rfl : .outside = first := Option.some.inj opening
    exact .inr (fromOff (goThrough_escaped_off (.inl rfl) moved))
  · obtain rfl : .inside '"' = first := Option.some.inj opening
    exact .inr (fromOff (goThrough_escaped_off (.inr (.inl rfl)) moved))

/-! ## The lines of the patterns -/

/-- No character of the text delimits or escapes. -/
def Quiet (chars : List Char) : Prop :=
  ∀ char ∈ chars, char ≠ '"' ∧ char ≠ '/' ∧ char ≠ '\\'

instance (chars : List Char) : Decidable (Quiet chars) :=
  List.decidableBAll _ chars

/-- A quiet text leaves a reader outside or in a delimited text where it is. -/
theorem goThrough_quiet {place next : Place} {chars : List Char} (quiet : Quiet chars)
    (placed : place = .outside ∨ Enclosed place)
    (moved : goThrough scriptRules place chars = some next) : next = place := by
  induction chars with
  | nil => exact (Option.some.inj moved).symm
  | cons char chars ih =>
    obtain ⟨noQuote, noSlash, noBackslash⟩ := quiet char List.mem_cons_self
    rw [goThrough_cons] at moved
    obtain ⟨first, step, moved⟩ := Option.bind_eq_some_iff.mp moved
    have stays : first = place := by
      rcases placed with rfl | rfl | rfl
      · rcases advance_outside_cases step with same | ⟨quote | slash, -⟩
        · exact same
        · exact absurd quote noQuote
        · exact absurd slash noSlash
      · rcases advance_inside_cases step with ⟨slash, -⟩ | ⟨backslash, -⟩ | same
        · exact absurd slash noSlash
        · exact absurd backslash noBackslash
        · exact same
      · rcases advance_inside_cases step with ⟨quote, -⟩ | ⟨backslash, -⟩ | same
        · exact absurd quote noQuote
        · exact absurd backslash noBackslash
        · exact same
    rw [stays] at moved
    exact ih (fun other listed => quiet other (List.mem_cons_of_mem _ listed)) moved

/-- A line end leaves a reader outside or in a delimited text. -/
theorem advance_newline {place next : Place} (possible : Possible place)
    (moved : advance scriptRules place '\n' = some next) :
    (next = .outside ∧ place = .outside) ∨ Enclosed next := by
  rcases possible with (rfl | rfl | rfl) | rfl | rfl
  · obtain rfl : .outside = next := Option.some.inj moved
    exact .inl ⟨rfl, rfl⟩
  · obtain rfl : .inside '"' = next := Option.some.inj moved
    exact .inr (.inr rfl)
  · obtain rfl : .inside '"' = next := Option.some.inj moved
    exact .inr (.inr rfl)
  · obtain rfl : .inside '/' = next := Option.some.inj moved
    exact .inr (.inl rfl)
  · obtain rfl : .inside '/' = next := Option.some.inj moved
    exact .inr (.inl rfl)

/-- A line of a pattern leads to outside only from outside, and only if its literal closes. -/
theorem goThrough_commandLine {place : Place} {verdict pattern : String}
    (answers : verdict = "deny" ∨ verdict = "permit") (possible : Possible place)
    (moved : goThrough scriptRules place ('\n' :: (commandLine verdict pattern).toList) =
      some .outside) : place = .outside ∧ KeepsLiteral pattern := by
  have written : (commandLine verdict pattern).toList = (indent4 ++ "if (cmd =~ ").toList ++
      (patternLiteral pattern ++ (") " ++ verdict).toList) := by
    have opened : "if (cmd =~ /" = "if (cmd =~ " ++ "/" := rfl
    have closed : "/) " = "/" ++ ") " := rfl
    rw [commandLine, opened, closed]
    simp [patternLiteral]
  have quietTail : Quiet (") " ++ verdict).toList := by
    rcases answers with rfl | rfl <;> decide
  rw [written, goThrough_cons] at moved
  obtain ⟨first, newline, moved⟩ := Option.bind_eq_some_iff.mp moved
  rw [goThrough_append] at moved
  obtain ⟨second, opening, moved⟩ := Option.bind_eq_some_iff.mp moved
  rw [goThrough_append] at moved
  obtain ⟨third, literal, tail⟩ := Option.bind_eq_some_iff.mp moved
  have begins := advance_newline possible newline
  have placed : first = .outside ∨ Enclosed first := begins.imp_left And.left
  obtain rfl := goThrough_quiet (by decide) placed opening
  have ends := goThrough_literal placed literal
  have outside := goThrough_quiet quietTail (ends.imp_left And.left) tail
  rcases ends with ⟨-, rfl, keeps⟩ | enclosed
  · rcases begins with ⟨-, start⟩ | enclosed
    · exact ⟨start, keeps⟩
    · rcases enclosed with absurdity | absurdity <;> cases absurdity
  · rw [← outside] at enclosed
    rcases enclosed with absurdity | absurdity <;> cases absurdity

/-- Lines of patterns lead to outside only from outside, and only if every literal closes. -/
theorem goThrough_commandLines {place : Place} {lines : List (String × String)}
    (answers : ∀ line ∈ lines, line.1 = "deny" ∨ line.1 = "permit") (possible : Possible place)
    (moved : goThrough scriptRules place
      (lines.flatMap fun line => '\n' :: (commandLine line.1 line.2).toList) = some .outside) :
    place = .outside ∧ ∀ line ∈ lines, KeepsLiteral line.2 := by
  induction lines generalizing place with
  | nil => exact ⟨Option.some.inj moved, fun _ listed => absurd listed List.not_mem_nil⟩
  | cons line lines ih =>
    rw [List.flatMap_cons, goThrough_append] at moved
    obtain ⟨next, first, rest⟩ := Option.bind_eq_some_iff.mp moved
    obtain ⟨rfl, later⟩ := ih (fun other listed => answers other (List.mem_cons_of_mem _ listed))
      (goThrough_possible possible first) rest
    obtain ⟨start, keeps⟩ := goThrough_commandLine (answers line List.mem_cons_self) possible first
    refine ⟨start, fun other listed => ?_⟩
    rcases List.mem_cons.mp listed with rfl | listed
    · exact keeps
    · exact later other listed

/-! ## The whole text -/

/-- The lines of the patterns with their answers. -/
def answerLines (profile : PrivilegeProfile) : List (String × String) :=
  (profile.denyCommandsRegex.map fun pattern => ("deny", pattern)) ++
    profile.permitCommandsRegex.map fun pattern => ("permit", pattern)

/-- With patterns, their lines stand between two texts, of which the second is quiet. -/
theorem exists_around_answerLines {profile : PrivilegeProfile}
    (given : ¬(profile.permitCommandsRegex = [] ∧ profile.denyCommandsRegex = [])) :
    ∃ before after, Quiet after ∧ (renderTacprofile profile).toList = before ++
      ((answerLines profile).flatMap fun line =>
        '\n' :: (commandLine line.1 line.2).toList) ++ '\n' :: after := by
  have lines : perCommandLines profile =
      (answerLines profile).map (fun line => commandLine line.1 line.2) ++ [indent4 ++ "deny"] := by
    rw [perCommandLines, if_neg given, answerLines, List.map_append, List.map_map, List.map_map]
    rfl
  let front : List String := ["    profile \x7b", "        script \x7b",
    indent3 ++ "if (service == shell) \x7b"] ++ shellSessionBlock profile
  let back : List String := [indent3 ++ "\x7d", indent3 ++ "deny", "        \x7d", "    \x7d",
    "\x7d"]
  refine ⟨"\x7b".toList ++ front.flatMap (fun line => '\n' :: line.toList),
    (indent4 ++ "deny").toList ++ back.flatMap (fun line => '\n' :: line.toList), by decide, ?_⟩
  have shape : renderTacprofile profile = "\n".intercalate ("\x7b" :: (front ++
      ((answerLines profile).map (fun line => commandLine line.1 line.2) ++
        (indent4 ++ "deny") :: back))) := by
    rw [renderTacprofile, lines]
    simp only [front, back, List.cons_append, List.append_assoc, List.nil_append]
  have newline : "\n".toList = ['\n'] := rfl
  rw [shape, String.toList_intercalate, List.map_cons, newline, intercalate_cons]
  simp only [List.map_append, List.map_cons, List.flatMap_append, List.flatMap_cons,
    List.flatMap_map, List.nil_append, List.append_assoc, List.cons_append]

/-- A text that has tokens has no pattern whose literal does not close. -/
theorem keepsLiteral_of_tokens {profile : PrivilegeProfile} {found : List Token}
    (lexed : tokens scriptRules (renderTacprofile profile).toList = some found) :
    ∀ pattern ∈ patternsOf profile, KeepsLiteral pattern := by
  by_cases given : profile.permitCommandsRegex = [] ∧ profile.denyCommandsRegex = []
  · intro pattern listed
    rw [patternsOf, given.1, given.2] at listed
    cases listed
  · obtain ⟨before, after, quiet, written⟩ := exists_around_answerLines given
    have through := goThrough_of_tokens lexed
    rw [written, goThrough_append, goThrough_append] at through
    obtain ⟨last, moved, tail⟩ := Option.bind_eq_some_iff.mp through
    obtain ⟨first, head, moved⟩ := Option.bind_eq_some_iff.mp moved
    have possible : Possible first := goThrough_possible (.inl (.inl rfl)) head
    have reached : Possible last := goThrough_possible possible moved
    rw [goThrough_cons] at tail
    obtain ⟨next, newline, tail⟩ := Option.bind_eq_some_iff.mp tail
    have ends := advance_newline reached newline
    obtain rfl := goThrough_quiet quiet (ends.imp_left And.left) tail
    have outside : last = .outside := by
      rcases ends with ⟨-, same⟩ | enclosed
      · exact same
      · rcases enclosed with absurdity | absurdity <;> cases absurdity
    rw [outside] at moved
    have answers : ∀ line ∈ answerLines profile, line.1 = "deny" ∨ line.1 = "permit" := by
      intro line listed
      rcases List.mem_append.mp listed with denied | permitted
      · obtain ⟨pattern, -, rfl⟩ := List.mem_map.mp denied
        exact .inl rfl
      · obtain ⟨pattern, -, rfl⟩ := List.mem_map.mp permitted
        exact .inr rfl
    obtain ⟨-, keeps⟩ := goThrough_commandLines answers possible moved
    intro pattern listed
    rcases List.mem_append.mp listed with denied | permitted
    · exact keeps ("deny", pattern) (List.mem_append_left _ (List.mem_map_of_mem denied))
    · exact keeps ("permit", pattern) (List.mem_append_right _ (List.mem_map_of_mem permitted))

end TacacsWeb.Verif
