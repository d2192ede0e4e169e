import TacacsWeb.Model.DaemonScript
import TacacsWeb.Model.PrivilegeProfiles

/-!
# Patterns in a rendered profile

A pattern stands between slashes in the script, with a backslash put before each of its slashes.
That closes the literal early where the slash already had one, since the two backslashes then make
a pair.
-/

namespace TacacsWeb.Verif

open TacacsWeb.Library.Lexer TacacsWeb.Library.Text TacacsWeb.Model

/-- Every backslash of a pattern is followed by a character. -/
def WellFormedPattern (pattern : String) : Prop := (split false pattern.toList).isSome = true

instance (pattern : String) : Decidable (WellFormedPattern pattern) :=
  inferInstanceAs (Decidable ((split false pattern.toList).isSome = true))

/-- A slash of the pattern has a backslash of its own. -/
def EscapesSlash (pattern : String) : Prop :=
  ∃ pieces, split false pattern.toList = some pieces ∧ .escaped '/' ∈ pieces

/-- The literal of a pattern, with its delimiters. -/
def patternLiteral (pattern : String) : List Char :=
  '/' :: (escapeRegexForScript pattern).toList ++ ['/']

/-- A reader inside the literal ends at its delimiter, with pieces that mean what the pieces of the
pattern mean. -/
def ReadsBack (pattern : String) (after : List Char) : Prop :=
  ∃ original read, split false pattern.toList = some original ∧
    scan '/' false ((escapeRegexForScript pattern).toList ++ '/' :: after) = some (read, after) ∧
    read.map meaning = original.map meaning

/-- The patterns of a profile, as the script tests them. -/
def patternsOf (profile : PrivilegeProfile) : List String :=
  profile.denyCommandsRegex ++ profile.permitCommandsRegex

/-- Every literal of the rendered text is read back. -/
def LiteralsSurvive (profile : PrivilegeProfile) : Prop :=
  ∀ pattern ∈ patternsOf profile, ∀ before after,
    (renderTacprofile profile).toList = before ++ patternLiteral pattern ++ after →
      ReadsBack pattern after

/-! ## One literal -/

/-- The pieces of an escaped slash behind the backslash of the renderer. -/
def escapedPieces : Piece → List Piece
  | .plain char => [if char = '/' then .escaped '/' else .plain char]
  | .escaped char => [.escaped char]

/-- The escaped text of a piece that is no escaped slash. -/
theorem text_escapedPieces {piece : Piece} (other : piece ≠ .escaped '/')
    (proper : piece ≠ .plain '\\') :
    (piece.text.flatMap fun char => if char = '/' then "\\/".toList else [char]) =
      (escapedPieces piece).flatMap Piece.text := by
  cases piece with
  | plain char =>
    by_cases slash : char = '/'
    · rw [slash]
      rfl
    · simp [Piece.text, escapedPieces, slash]
  | escaped char =>
    have noSlash : char ≠ '/' := fun same => other (congrArg Piece.escaped same)
    simp [Piece.text, escapedPieces, noSlash]

/-- The escaped text of pieces without an escaped slash. -/
theorem text_flatMap_escapedPieces {pieces : List Piece} (proper : Proper pieces)
    (unescaped : .escaped '/' ∉ pieces) :
    ((pieces.flatMap Piece.text).flatMap fun char =>
        if char = '/' then "\\/".toList else [char]) =
      (pieces.flatMap escapedPieces).flatMap Piece.text := by
  induction pieces with
  | nil => rfl
  | cons piece pieces ih =>
    have here : piece ≠ .escaped '/' := by
      intro same
      rw [same] at unescaped
      exact unescaped List.mem_cons_self
    have plain : piece ≠ .plain '\\' := by
      intro same
      rw [same] at proper
      exact proper '\\' List.mem_cons_self rfl
    have later := ih (fun char listed => proper char (List.mem_cons_of_mem _ listed))
      (fun listed => unescaped (List.mem_cons_of_mem _ listed))
    rw [List.flatMap_cons, List.flatMap_append, text_escapedPieces here plain, later,
      List.flatMap_cons, List.flatMap_append]

/-- The escaped pieces are proper, and no bare slash is left among them. -/
theorem escapedPieces_readable {pieces : List Piece} (proper : Proper pieces) :
    Proper (pieces.flatMap escapedPieces) ∧ .plain '/' ∉ pieces.flatMap escapedPieces := by
  constructor
  · intro char listed
    obtain ⟨piece, present, inside⟩ := List.mem_flatMap.mp listed
    cases piece with
    | escaped other => simp [escapedPieces] at inside
    | plain other =>
      by_cases slash : other = '/'
      · simp [escapedPieces, slash] at inside
      · simp only [escapedPieces, if_neg slash, List.mem_singleton, Piece.plain.injEq] at inside
        rw [inside]
        exact proper other present
  · intro listed
    obtain ⟨piece, present, inside⟩ := List.mem_flatMap.mp listed
    cases piece with
    | escaped other => simp [escapedPieces] at inside
    | plain other =>
      by_cases slash : other = '/'
      · simp [escapedPieces, slash] at inside
      · simp only [escapedPieces, if_neg slash, List.mem_singleton, Piece.plain.injEq] at inside
        exact slash inside.symm

/-- The escaped pieces mean what the pieces mean. -/
theorem meaning_escapedPieces (pieces : List Piece) :
    (pieces.flatMap escapedPieces).map meaning = pieces.map meaning := by
  induction pieces with
  | nil => rfl
  | cons piece pieces ih =>
    rw [List.flatMap_cons, List.map_append, ih, List.map_cons]
    cases piece with
    | escaped char => rfl
    | plain char =>
      by_cases slash : char = '/'
      · rw [slash]
        rfl
      · simp [escapedPieces, slash]

/-- A pattern without an escaped slash is read back, whatever follows. -/
theorem scan_escapeRegex {pattern : String} {pieces : List Piece}
    (parted : split false pattern.toList = some pieces) (unescaped : .escaped '/' ∉ pieces)
    (after : List Char) :
    scan '/' false ((escapeRegexForScript pattern).toList ++ '/' :: after) =
      some (pieces.flatMap escapedPieces, after) := by
  obtain ⟨text, proper⟩ := split_eq_some parted
  rw [if_neg Bool.false_ne_true] at text
  obtain ⟨properToo, closed⟩ := escapedPieces_readable proper
  rw [escapeRegexForScript, toList_replaceChar, ← text,
    text_flatMap_escapedPieces proper unescaped]
  exact scan_pieces (by decide) properToo closed

/-- A pattern with an escaped slash is cut there, and more than what follows is left. -/
theorem scan_escapeRegex_cut {pattern : String} (cut : EscapesSlash pattern) (after : List Char) :
    ∃ read left, scan '/' false ((escapeRegexForScript pattern).toList ++ '/' :: after) =
      some (read, left) ∧ after.length < left.length := by
  obtain ⟨pieces, parted, listed⟩ := cut
  obtain ⟨text, proper⟩ := split_eq_some parted
  rw [if_neg Bool.false_ne_true] at text
  obtain ⟨earlier, later, parts, first⟩ := List.eq_append_cons_of_mem listed
  let rest : List Char := (later.flatMap Piece.text).flatMap fun char =>
    if char = '/' then "\\/".toList else [char]
  have earlierProper : Proper earlier := fun char inside =>
    proper char (by rw [parts]; exact List.mem_append_left _ inside)
  obtain ⟨readable, closed⟩ := escapedPieces_readable earlierProper
  let opening : List Piece := earlier.flatMap escapedPieces ++ [.escaped '\\']
  have tail : ((Piece.escaped '/' :: later).flatMap Piece.text).flatMap (fun char =>
      if char = '/' then "\\/".toList else [char]) = '\\' :: '\\' :: '/' :: rest := rfl
  have written : (escapeRegexForScript pattern).toList =
      opening.flatMap Piece.text ++ '/' :: rest := by
    rw [escapeRegexForScript, toList_replaceChar, ← text, parts, List.flatMap_append,
      List.flatMap_append, text_flatMap_escapedPieces earlierProper first, tail,
      List.flatMap_append, List.append_assoc]
    rfl
  refine ⟨opening, rest ++ '/' :: after, ?_, ?_⟩
  · rw [written, List.append_assoc, List.cons_append]
    apply scan_pieces (by decide)
    · intro char inside
      cases List.mem_append.mp inside with
      | inl inside => exact readable char inside
      | inr inside => simp at inside
    · intro inside
      cases List.mem_append.mp inside with
      | inl inside => exact closed inside
      | inr inside => simp at inside
  · rw [List.length_append, List.length_cons]
    omega

/-- When the literal of a well-formed pattern is read back. -/
theorem readsBack_iff {pattern : String} (wellFormed : WellFormedPattern pattern)
    (after : List Char) : ReadsBack pattern after ↔ ¬EscapesSlash pattern := by
  constructor
  · intro readsBack cut
    obtain ⟨original, read, -, scanned, -⟩ := readsBack
    obtain ⟨other, left, cutScan, longer⟩ := scan_escapeRegex_cut cut after
    rw [scanned] at cutScan
    cases cutScan
    omega
  · intro unescaped
    obtain ⟨pieces, parted⟩ := Option.isSome_iff_exists.mp wellFormed
    have absent : .escaped '/' ∉ pieces := fun listed => unescaped ⟨pieces, parted, listed⟩
    exact ⟨pieces, pieces.flatMap escapedPieces, parted, scan_escapeRegex parted absent after,
      meaning_escapedPieces pieces⟩

/-! ## The literals of a profile -/

/-- The literal of a pattern stands in its line. -/
theorem exists_patternLiteral_commandLine (verdict pattern : String) :
    ∃ before after, (commandLine verdict pattern).toList =
      before ++ patternLiteral pattern ++ after := by
  refine ⟨(indent4 ++ "if (cmd =~ ").toList, (") " ++ verdict).toList, ?_⟩
  have opened : "if (cmd =~ /" = "if (cmd =~ " ++ "/" := rfl
  have closed : "/) " = "/" ++ ") " := rfl
  rw [commandLine, opened, closed]
  simp [patternLiteral]

/-- The renderer writes a literal for every pattern. -/
theorem exists_patternLiteral {profile : PrivilegeProfile} {pattern : String}
    (listed : pattern ∈ patternsOf profile) :
    ∃ before after, (renderTacprofile profile).toList =
      before ++ patternLiteral pattern ++ after := by
  have line : ∃ verdict, commandLine verdict pattern ∈ perCommandLines profile := by
    unfold perCommandLines
    split
    · rename_i none
      rw [patternsOf, none.1, none.2] at listed
      cases listed
    · cases List.mem_append.mp listed with
      | inl denied =>
        refine ⟨"deny", List.mem_append_left _ (List.mem_append_left _ ?_)⟩
        exact List.mem_map.mpr ⟨pattern, denied, rfl⟩
      | inr permitted =>
        refine ⟨"permit", List.mem_append_left _ (List.mem_append_right _ ?_)⟩
        exact List.mem_map.mpr ⟨pattern, permitted, rfl⟩
  obtain ⟨verdict, line⟩ := line
  rw [renderTacprofile, String.toList_intercalate]
  obtain ⟨left, right, around⟩ := exists_around_of_mem (List.mem_map_of_mem
    (List.mem_append_left _ (List.mem_append_right _ line)))
  obtain ⟨before, after, inside⟩ := exists_patternLiteral_commandLine verdict pattern
  exact ⟨left ++ before, after ++ right, by rw [around, inside]; simp⟩

/-- Over well-formed patterns,
every literal of the rendered text closes where the renderer closed it and means what its pattern
means, if and only if no pattern has a slash with a backslash of its own. -/
theorem literalsSurvive_iff (profile : PrivilegeProfile)
    (wellFormed : ∀ pattern ∈ patternsOf profile, WellFormedPattern pattern) :
    LiteralsSurvive profile ↔ ∀ pattern ∈ patternsOf profile, ¬EscapesSlash pattern := by
  constructor
  · intro survive pattern listed
    obtain ⟨before, after, written⟩ := exists_patternLiteral listed
    exact (readsBack_iff (wellFormed pattern listed) after).mp
      (survive pattern listed before after written)
  · intro unescaped pattern listed before after _
    exact (readsBack_iff (wellFormed pattern listed) after).mpr (unescaped pattern listed)

/-- The lowest useful level is a level. -/
theorem levelOne_inRange : (0 : Int) ≤ 1 ∧ (1 : Int) ≤ 15 := by decide

/-- No free text is not too long. -/
theorem undescribed_length : ∀ value ∈ (none : Option String), value.length ≤ 2048 := nofun

/-- An operator profile of the lowest useful level, with a further attribute. -/
def readOnly (key value : String) : PrivilegeProfileCreate where
  name := "read-only"
  tacacsPrivLvl := 1
  permitCommandsRegex := ["^show"]
  denyCommandsRegex := []
  extraAvPairs := ⟨[(key, value)], List.nodup_singleton _⟩
  description := none
  nameLength := by decide
  privLvlRange := levelOne_inRange
  descriptionLength := undescribed_length

/-- A profile of one denied pattern. -/
def denying (pattern : String) : PrivilegeProfileCreate where
  name := "limited"
  tacacsPrivLvl := 1
  permitCommandsRegex := []
  denyCommandsRegex := [pattern]
  extraAvPairs := ∅
  description := none
  nameLength := by decide
  privLvlRange := levelOne_inRange
  descriptionLength := undescribed_length

/-- A slash and an escaped backslash in a pattern. -/
theorem literalsSurvive_slash :
    LiteralsSurvive ((denying "show \\\\ a/b").row 1) ↔
      ∀ pattern ∈ patternsOf ((denying "show \\\\ a/b").row 1), ¬EscapesSlash pattern := by
  apply literalsSurvive_iff
  intro pattern listed
  rw [List.mem_singleton.mp listed]
  decide

/-- The pattern `Gi0\/1` is accepted, and its literal closes before the last character. -/
theorem escaped_slash_not_survives :
    ¬ ∀ (printable : Char → Bool) (ctx : SessionContext) (profile : PrivilegeProfile),
      ReachableProfile printable ctx profile →
        (∀ pattern ∈ patternsOf profile, WellFormedPattern pattern) →
          LiteralsSurvive profile := by
  intro claimed
  have reached : ReachableProfile (fun _ => true) ⟨"ops", "admin", "local", none, none, none⟩
      ((denying "Gi0\\/1").row 1) := ⟨[.create (denying "Gi0\\/1")], _, rfl, by decide⟩
  have wellFormed : ∀ pattern ∈ patternsOf ((denying "Gi0\\/1").row 1),
      WellFormedPattern pattern := by
    intro pattern listed
    rw [List.mem_singleton.mp listed]
    decide
  have survive := claimed _ _ _ reached wellFormed "Gi0\\/1" (List.mem_singleton_self _)
  have emitted : ∃ before after, (renderTacprofile ((denying "Gi0\\/1").row 1)).toList =
      before ++ patternLiteral "Gi0\\/1" ++ after :=
    exists_patternLiteral (List.mem_singleton_self _)
  obtain ⟨before, after, written⟩ := emitted
  have cut : EscapesSlash "Gi0\\/1" :=
    ⟨[.plain 'G', .plain 'i', .plain '0', .escaped '/', .plain '1'], by decide, by decide⟩
  exact (readsBack_iff (by decide) after).mp (survive before after written) cut

end TacacsWeb.Verif
