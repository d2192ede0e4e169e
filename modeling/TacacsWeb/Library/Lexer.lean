import TacacsWeb.Library.Text
import Mathlib.Data.List.Basic
import Mathlib.Data.List.TakeWhile

/-!
# Delimited texts and tokens

A delimited text ends at the first delimiter that no backslash protects, and a backslash makes
the next character part of the text whatever it is. On top of that a lexer: blanks, words,
delimited texts and single-character symbols. The rules let the tokens of a long text be put
together from those of its parts.
-/

namespace TacacsWeb.Library.Lexer

/-! ## Delimited texts -/

/-- A part of a delimited text. -/
inductive Piece where
  /-- A character that stands for itself. -/
  | plain (char : Char)
  /-- A character behind a backslash. -/
  | escaped (char : Char)
deriving DecidableEq

/-- The characters of a piece. -/
def Piece.text : Piece → List Char
  | plain char => [char]
  | escaped char => ['\\', char]

/-- The character that a piece is for a reader who drops the backslash. -/
def Piece.value : Piece → Char
  | plain char => char
  | escaped char => char

/-- Read up to the delimiter, and return what follows it. The flag says that a backslash came just
before. -/
def scan (delimiter : Char) : Bool → List Char → Option (List Piece × List Char)
  | _, [] => none
  | true, char :: rest =>
    (scan delimiter false rest).map fun read => (.escaped char :: read.1, read.2)
  | false, char :: rest =>
    if char = delimiter then some ([], rest)
    else if char = '\\' then scan delimiter true rest
    else (scan delimiter false rest).map fun read => (.plain char :: read.1, read.2)

/-- The pieces of a whole text, none when its last backslash is followed by nothing. -/
def split : Bool → List Char → Option (List Piece)
  | false, [] => some []
  | true, [] => none
  | true, char :: rest => (split false rest).map (.escaped char :: ·)
  | false, char :: rest =>
    if char = '\\' then split true rest else (split false rest).map (.plain char :: ·)

/-- The pieces of a text in which the delimiter and every backslash are protected. -/
def protectedPiece (delimiter char : Char) : Piece :=
  if char = delimiter ∨ char = '\\' then .escaped char else .plain char

/-- No piece is a bare backslash. -/
def Proper (pieces : List Piece) : Prop := ∀ char, .plain char ∈ pieces → char ≠ '\\'

/-- A splitting gives the text back, and its pieces are proper. -/
theorem split_eq_some {escaping : Bool} {chars : List Char} {pieces : List Piece}
    (parted : split escaping chars = some pieces) :
    pieces.flatMap Piece.text = (if escaping then '\\' :: chars else chars) ∧ Proper pieces := by
  induction chars generalizing escaping pieces with
  | nil =>
    cases escaping with
    | true => cases parted
    | false =>
      cases parted
      exact ⟨rfl, fun char listed => by cases listed⟩
  | cons char rest ih =>
    cases escaping with
    | true =>
      obtain ⟨later, parted, same⟩ := Option.map_eq_some_iff.mp parted
      obtain ⟨text, proper⟩ := ih parted
      rw [← same]
      constructor
      · rw [List.flatMap_cons, text]
        rfl
      · intro other listed
        cases listed with
        | tail _ listed => exact proper other listed
    | false =>
      rw [split] at parted
      split at parted
      · rename_i backslash
        obtain ⟨text, proper⟩ := ih parted
        rw [text, backslash]
        exact ⟨rfl, proper⟩
      · rename_i ordinary
        obtain ⟨later, parted, same⟩ := Option.map_eq_some_iff.mp parted
        obtain ⟨text, proper⟩ := ih parted
        rw [← same]
        constructor
        · rw [List.flatMap_cons, text]
          rfl
        · intro other listed
          cases listed with
          | head => exact ordinary
          | tail _ listed => exact proper other listed

/-- Proper pieces without a bare delimiter are read up to the delimiter behind them. -/
theorem scan_pieces {delimiter : Char} {pieces : List Piece} {rest : List Char}
    (notBackslash : delimiter ≠ '\\') (proper : Proper pieces)
    (closed : .plain delimiter ∉ pieces) :
    scan delimiter false (pieces.flatMap Piece.text ++ delimiter :: rest) =
      some (pieces, rest) := by
  induction pieces with
  | nil =>
    rw [List.flatMap_nil, List.nil_append, scan, if_pos rfl]
  | cons piece pieces ih =>
    have later := ih (fun char listed => proper char (List.mem_cons_of_mem _ listed))
      (fun listed => closed (List.mem_cons_of_mem _ listed))
    cases piece with
    | plain char =>
      have other : char ≠ delimiter := by
        intro same
        rw [same] at closed
        exact closed List.mem_cons_self
      have ordinary : char ≠ '\\' := proper char List.mem_cons_self
      rw [List.flatMap_cons, Piece.text, List.singleton_append, List.cons_append, scan,
        if_neg other, if_neg ordinary, later]
      rfl
    | escaped char =>
      have parts : (Piece.escaped char :: pieces).flatMap Piece.text ++ delimiter :: rest =
          '\\' :: char :: (pieces.flatMap Piece.text ++ delimiter :: rest) := rfl
      rw [parts, scan, if_neg (Ne.symm notBackslash), if_pos rfl, scan, later]
      rfl

/-- A text whose delimiters and backslashes are protected is read back. -/
theorem scan_protected {delimiter : Char} (chars : List Char) {rest : List Char}
    (notBackslash : delimiter ≠ '\\') :
    scan delimiter false
        ((chars.map (protectedPiece delimiter)).flatMap Piece.text ++ delimiter :: rest) =
      some (chars.map (protectedPiece delimiter), rest) := by
  apply scan_pieces notBackslash
  · intro char listed
    obtain ⟨source, -, same⟩ := List.mem_map.mp listed
    unfold protectedPiece at same
    split at same
    · cases same
    · rename_i ordinary
      cases same
      exact fun backslash => ordinary (.inr backslash)
  · intro listed
    obtain ⟨source, -, same⟩ := List.mem_map.mp listed
    unfold protectedPiece at same
    split at same
    · cases same
    · rename_i ordinary
      cases same
      exact ordinary (.inl rfl)

/-- A delimited text without its backslashes. -/
def quotedText (pieces : List Piece) : String := String.ofList (pieces.map Piece.value)

/-- The reader who drops the backslashes gets the text. -/
theorem quotedText_protected (delimiter : Char) (text : String) :
    quotedText (text.toList.map (protectedPiece delimiter)) = text := by
  have value : ∀ char ∈ text.toList, (Piece.value ∘ protectedPiece delimiter) char = char := by
    intro char _
    simp only [Function.comp_apply, protectedPiece]
    split <;> rfl
  rw [quotedText, List.map_map, List.map_congr_left value, List.map_id', String.ofList_toList]

/-- Doubling the backslashes and then escaping the delimiter protects a text. -/
theorem toList_replaceChar_protected {delimiter : Char} {escape : String}
    (notBackslash : delimiter ≠ '\\') (written : escape.toList = ['\\', delimiter])
    (text : String) :
    (Text.replaceChar delimiter escape (Text.replaceChar '\\' "\\\\" text)).toList =
      (text.toList.map (protectedPiece delimiter)).flatMap Piece.text := by
  rw [Text.toList_replaceChar, Text.toList_replaceChar, List.flatMap_assoc, List.flatMap_map]
  congr 1
  funext char
  by_cases backslash : char = '\\'
  · have apart : ('\\' : Char) ≠ delimiter := Ne.symm notBackslash
    simp [backslash, protectedPiece, Piece.text, apart]
  · by_cases same : char = delimiter
    · simp [same, notBackslash, protectedPiece, Piece.text, written]
    · simp [backslash, same, protectedPiece, Piece.text]

/-- What follows a delimited text is read further behind it. -/
theorem scan_append {delimiter : Char} {escaping : Bool} {chars after : List Char}
    {pieces : List Piece} (read : scan delimiter escaping chars = some (pieces, after))
    (rest : List Char) :
    scan delimiter escaping (chars ++ rest) = some (pieces, after ++ rest) := by
  induction chars generalizing escaping pieces with
  | nil => cases escaping <;> cases read
  | cons char chars ih =>
    cases escaping with
    | true =>
      obtain ⟨found, inner, same⟩ := Option.map_eq_some_iff.mp read
      cases same
      rw [List.cons_append, scan, ih inner]
      rfl
    | false =>
      rw [scan] at read
      rw [List.cons_append, scan]
      split at read
      · rename_i closing
        cases read
        rw [if_pos closing]
      · rename_i open'
        rw [if_neg open']
        split at read
        · rename_i backslash
          rw [if_pos backslash]
          exact ih read
        · rename_i ordinary
          obtain ⟨found, inner, same⟩ := Option.map_eq_some_iff.mp read
          cases same
          rw [if_neg ordinary, ih inner]
          rfl

/-- A reading ends behind where it began. -/
theorem scan_length {delimiter : Char} {escaping : Bool} {chars after : List Char}
    {pieces : List Piece} (read : scan delimiter escaping chars = some (pieces, after)) :
    after.length < chars.length := by
  induction chars generalizing escaping pieces with
  | nil => cases escaping <;> cases read
  | cons char chars ih =>
    rw [List.length_cons]
    cases escaping with
    | true =>
      obtain ⟨found, inner, same⟩ := Option.map_eq_some_iff.mp read
      cases same
      have shorter := ih inner
      omega
    | false =>
      rw [scan] at read
      split at read
      · cases read
        omega
      · split at read
        · have shorter := ih read
          omega
        · obtain ⟨found, inner, same⟩ := Option.map_eq_some_iff.mp read
          cases same
          have shorter := ih inner
          omega

/-! ## Tokens -/

/-- The characters of a language. -/
structure Rules where
  /-- Characters between tokens. -/
  isSpace : Char → Bool
  /-- Characters that open and close a delimited text. -/
  isDelimiter : Char → Bool
  /-- Characters of words. -/
  isWord : Char → Bool
  /-- Characters that are tokens. -/
  isSymbol : Char → Bool
  /-- A character of a word is neither a blank nor a delimiter. -/
  word_only : ∀ char, isWord char = true → isSpace char = false ∧ isDelimiter char = false
  /-- A symbol is nothing else. -/
  symbol_only : ∀ char, isSymbol char = true →
    isSpace char = false ∧ isDelimiter char = false ∧ isWord char = false
  /-- A delimiter is not a blank, and not the backslash. -/
  delimiter_only : ∀ char, isDelimiter char = true → isSpace char = false ∧ char ≠ '\\'

/-- A token. -/
inductive Token where
  /-- A word. -/
  | word (text : String)
  /-- A text between delimiters. -/
  | quoted (delimiter : Char) (pieces : List Piece)
  /-- A symbol. -/
  | symbol (char : Char)
deriving DecidableEq

variable (rules : Rules)

/-- The tokens of a text, with a bound on their number and that of the blanks. -/
def tokensWithin : Nat → List Char → Option (List Token)
  | _, [] => some []
  | 0, _ :: _ => none
  | bound + 1, char :: rest =>
    if rules.isSpace char then tokensWithin bound rest
    else if rules.isDelimiter char then
      (scan char false rest).bind fun read =>
        (tokensWithin bound read.2).map (.quoted char read.1 :: ·)
    else if rules.isWord char then
      (tokensWithin bound (rest.dropWhile rules.isWord)).map
        (.word (String.ofList (char :: rest.takeWhile rules.isWord)) :: ·)
    else if rules.isSymbol char then (tokensWithin bound rest).map (.symbol char :: ·)
    else none

/-- The tokens of a text, none when it has a character out of place or an open delimiter. -/
def tokens (chars : List Char) : Option (List Token) := tokensWithin rules chars.length chars

variable {rules}

/-- A text has tokens under every bound that its length allows. -/
def Lexes (rules : Rules) (chars : List Char) (found : List Token) : Prop :=
  ∀ bound, chars.length ≤ bound → tokensWithin rules bound chars = some found

/-- The tokens of a text. -/
theorem Lexes.tokens_eq {chars : List Char} {found : List Token}
    (lexes : Lexes rules chars found) : tokens rules chars = some found :=
  lexes _ (Nat.le_refl _)

/-- The empty text has no tokens. -/
theorem lexes_nil : Lexes rules [] [] := by
  intro bound _
  cases bound <;> rfl

/-- What the rest of a text may begin with for a word to end there. -/
def EndsWord (rules : Rules) (rest : List Char) : Prop :=
  ∀ char ∈ rest.head?, rules.isWord char = false

/-- A word ends where the text does. -/
theorem endsWord_nil : EndsWord rules [] := by
  intro char listed
  cases listed

/-- A word ends before a character of no word. -/
theorem endsWord_cons {char : Char} {rest : List Char} (other : rules.isWord char = false) :
    EndsWord rules (char :: rest) := by
  intro first listed
  cases listed
  exact other

/-- A word is what precedes its end. -/
theorem takeWhile_word {word rest : List Char} (letters : ∀ char ∈ word, rules.isWord char = true)
    (ends : EndsWord rules rest) :
    (word ++ rest).takeWhile rules.isWord = word ∧
      (word ++ rest).dropWhile rules.isWord = rest := by
  rw [List.takeWhile_append_of_pos letters, List.dropWhile_append_of_pos letters]
  cases rest with
  | nil => simp
  | cons char rest =>
    have other : rules.isWord char = false := ends char rfl
    simp [other]

/-- Blanks are passed over. -/
theorem Lexes.space {char : Char} {rest : List Char} {found : List Token}
    (blank : rules.isSpace char = true) (lexes : Lexes rules rest found) :
    Lexes rules (char :: rest) found := by
  intro bound enough
  cases bound with
  | zero => cases enough
  | succ bound =>
    rw [tokensWithin, if_pos blank]
    exact lexes bound (Nat.le_of_succ_le_succ enough)

/-- A symbol is a token. -/
theorem Lexes.symbol {char : Char} {rest : List Char} {found : List Token}
    (isSymbol : rules.isSymbol char = true) (lexes : Lexes rules rest found) :
    Lexes rules (char :: rest) (.symbol char :: found) := by
  intro bound enough
  obtain ⟨notSpace, notDelimiter, notWord⟩ := rules.symbol_only char isSymbol
  cases bound with
  | zero => cases enough
  | succ bound =>
    simp only [tokensWithin, notSpace, notDelimiter, notWord, isSymbol, Bool.false_eq_true,
      if_false, if_true, lexes bound (Nat.le_of_succ_le_succ enough), Option.map_some]

/-- A word is a token. -/
theorem Lexes.word {word rest : List Char} {found : List Token} (nonempty : word ≠ [])
    (letters : ∀ char ∈ word, rules.isWord char = true) (ends : EndsWord rules rest)
    (lexes : Lexes rules rest found) :
    Lexes rules (word ++ rest) (.word (String.ofList word) :: found) := by
  intro bound enough
  cases word with
  | nil => exact absurd rfl nonempty
  | cons char word =>
    have isWord := letters char List.mem_cons_self
    obtain ⟨notSpace, notDelimiter⟩ := rules.word_only char isWord
    obtain ⟨taken, dropped⟩ := takeWhile_word
      (fun other listed => letters other (List.mem_cons_of_mem _ listed)) ends
    cases bound with
    | zero => cases enough
    | succ bound =>
      have fits : rest.length ≤ bound := by
        rw [List.cons_append, List.length_cons, List.length_append] at enough
        omega
      simp only [List.cons_append, tokensWithin, notSpace, notDelimiter, isWord,
        Bool.false_eq_true, if_false, if_true, taken, dropped, lexes bound fits, Option.map_some]

/-- A delimited text is a token. -/
theorem Lexes.quoted {delimiter : Char} {chars after : List Char} {pieces : List Piece}
    {found : List Token} (isDelimiter : rules.isDelimiter delimiter = true)
    (read : scan delimiter false chars = some (pieces, after))
    (lexes : Lexes rules after found) :
    Lexes rules (delimiter :: chars) (.quoted delimiter pieces :: found) := by
  intro bound enough
  have notSpace := (rules.delimiter_only delimiter isDelimiter).1
  have shorter := scan_length read
  cases bound with
  | zero => cases enough
  | succ bound =>
    have fits : after.length ≤ bound := by
      rw [List.length_cons] at enough
      omega
    simp only [tokensWithin, notSpace, isDelimiter, Bool.false_eq_true, if_false, if_true, read,
      Option.bind_some, lexes bound fits, Option.map_some]

/-- The tokens of two texts, one after the other, when no word runs over. -/
theorem Lexes.append {bound : Nat} {chars rest : List Char} {first found : List Token}
    (read : tokensWithin rules bound chars = some first) (ends : EndsWord rules rest)
    (lexes : Lexes rules rest found) : Lexes rules (chars ++ rest) (first ++ found) := by
  induction bound generalizing chars first with
  | zero =>
    cases chars with
    | nil =>
      cases read
      exact lexes
    | cons char chars => cases read
  | succ bound ih =>
    cases chars with
    | nil =>
      cases read
      exact lexes
    | cons char chars =>
      rw [tokensWithin] at read
      split at read
      · rename_i blank
        exact (ih read).space blank
      split at read
      · rename_i isDelimiter
        obtain ⟨⟨pieces, after⟩, scanned, read⟩ := Option.bind_eq_some_iff.mp read
        obtain ⟨later, read, same⟩ := Option.map_eq_some_iff.mp read
        rw [← same]
        exact (ih read).quoted isDelimiter (scan_append scanned rest)
      split at read
      · rename_i isWord
        obtain ⟨later, read, same⟩ := Option.map_eq_some_iff.mp read
        rw [← same]
        have letters : ∀ other ∈ char :: chars.takeWhile rules.isWord,
            rules.isWord other = true := by
          intro other listed
          cases listed with
          | head => exact isWord
          | tail _ listed => exact List.mem_takeWhile_imp listed
        have endsHere : EndsWord rules (chars.dropWhile rules.isWord ++ rest) := by
          cases remaining : chars.dropWhile rules.isWord with
          | nil => exact ends
          | cons next remainder =>
            apply endsWord_cons
            have stopped := List.head?_dropWhile_not rules.isWord chars
            rw [remaining] at stopped
            simpa using stopped
        have parts : char :: chars ++ rest =
            (char :: chars.takeWhile rules.isWord) ++ (chars.dropWhile rules.isWord ++ rest) := by
          rw [List.cons_append, List.cons_append, ← List.append_assoc,
            List.takeWhile_append_dropWhile]
        rw [parts]
        exact Lexes.word (List.cons_ne_nil _ _) letters endsHere (ih read)
      split at read
      · rename_i isSymbol
        obtain ⟨later, read, same⟩ := Option.map_eq_some_iff.mp read
        rw [← same]
        exact (ih read).symbol isSymbol
      · cases read

/-- The bound does not decide what the tokens are. -/
theorem tokensWithin_unique {bound : Nat} {chars : List Char} {first second : List Token}
    (read : tokensWithin rules bound chars = some first)
    (lexed : tokens rules chars = some second) : first = second := by
  have lexes := Lexes.append read endsWord_nil lexes_nil
  have same := lexes.tokens_eq
  rw [List.append_nil, List.append_nil, lexed] at same
  exact (Option.some.inj same).symm

/-- A line has tokens of its own, whatever follows it, if no word runs over. -/
def LineLexes (rules : Rules) (line : String) (found : List Token) : Prop :=
  ∀ rest later, EndsWord rules rest → Lexes rules rest later →
    Lexes rules (line.toList ++ rest) (found ++ later)

/-- A line whose tokens are computed. -/
theorem lineLexes_of_tokens {line : String} {found : List Token}
    (lexed : tokens rules line.toList = some found) : LineLexes rules line found :=
  fun _ _ ends lexes => Lexes.append lexed ends lexes

/-- A text after which a blank, a symbol or a delimiter follows. -/
theorem Lexes.prefixed (text : String) (found : List Token) {rest : List Char}
    {later : List Token} {char : Char} (lexed : tokens rules text.toList = some found)
    (other : rules.isWord char = false) (lexes : Lexes rules (char :: rest) later) :
    Lexes rules (text.toList ++ char :: rest) (found ++ later) :=
  Lexes.append lexed (endsWord_cons other) lexes

/-- Lines put together where the line end is a blank: the tokens are those of the lines. -/
theorem lexes_lines (blank : rules.isSpace '\n' = true) {entries : List (String × List Token)}
    (each : ∀ entry ∈ entries, LineLexes rules entry.1 entry.2) :
    Lexes rules (['\n'].intercalate (entries.map fun entry => entry.1.toList))
      (entries.flatMap Prod.snd) := by
  have ends : rules.isWord '\n' = false := by
    cases isWord : rules.isWord '\n' with
    | false => rfl
    | true =>
      have notBlank := (rules.word_only '\n' isWord).1
      rw [blank] at notBlank
      cases notBlank
  induction entries with
  | nil => exact lexes_nil
  | cons first rest ih =>
    have later := ih fun entry listed => each entry (List.mem_cons_of_mem _ listed)
    have here := each first List.mem_cons_self
    cases rest with
    | nil =>
      have alone := here [] [] endsWord_nil lexes_nil
      simpa using alone
    | cons second others =>
      have newline : Lexes rules ('\n' :: ['\n'].intercalate
          ((second :: others).map fun entry => entry.1.toList))
          ((second :: others).flatMap Prod.snd) := Lexes.space blank later
      have both := here _ _ (endsWord_cons ends) newline
      rw [List.map_cons, List.map_cons, List.intercalate_cons_cons, List.flatMap_cons]
      simpa using both

/-- Ended lines where the line end is a symbol: it stands behind the tokens of each line. -/
theorem lexes_endedLines (symbol : rules.isSymbol '\n' = true)
    {entries : List (String × List Token)}
    (each : ∀ entry ∈ entries, LineLexes rules entry.1 entry.2) :
    Lexes rules (entries.flatMap fun entry => entry.1.toList ++ ['\n'])
      (entries.flatMap fun entry => entry.2 ++ [.symbol '\n']) := by
  have ends : rules.isWord '\n' = false := (rules.symbol_only '\n' symbol).2.2
  induction entries with
  | nil => exact lexes_nil
  | cons first rest ih =>
    have later := ih fun entry listed => each entry (List.mem_cons_of_mem _ listed)
    have both := each first List.mem_cons_self _ _ (endsWord_cons ends) (Lexes.symbol symbol later)
    rw [List.flatMap_cons, List.flatMap_cons, List.append_assoc, List.append_assoc]
    exact both

/-! ## Places in a text -/

/-- Where a reader is in a text. -/
inductive Place where
  /-- Between tokens, or in a word. -/
  | outside
  /-- In a delimited text. -/
  | inside (delimiter : Char)
  /-- In a delimited text, behind a backslash. -/
  | escaping (delimiter : Char)
deriving DecidableEq

variable (rules) in
/-- The place behind a character, none when it is out of place. -/
def advance : Place → Char → Option Place
  | .outside, char =>
    if rules.isSpace char || rules.isWord char || rules.isSymbol char then some .outside
    else if rules.isDelimiter char then some (.inside char)
    else none
  | .inside delimiter, char =>
    if char = delimiter then some .outside
    else if char = '\\' then some (.escaping delimiter)
    else some (.inside delimiter)
  | .escaping delimiter, _ => some (.inside delimiter)

variable (rules) in
/-- The place behind some characters. -/
def goThrough (place : Place) (chars : List Char) : Option Place :=
  chars.foldlM (advance rules) place

/-- The place behind a character and what follows it. -/
theorem goThrough_cons (place : Place) (char : Char) (rest : List Char) :
    goThrough rules place (char :: rest) =
      (advance rules place char).bind fun next => goThrough rules next rest := rfl

/-- The place behind two texts. -/
theorem goThrough_append (place : Place) (first second : List Char) :
    goThrough rules place (first ++ second) =
      (goThrough rules place first).bind fun next => goThrough rules next second :=
  List.foldlM_append

/-- A delimited text is left behind its delimiter. -/
theorem goThrough_of_scan {delimiter : Char} {isEscaped : Bool} {chars after : List Char}
    {pieces : List Piece} (read : scan delimiter isEscaped chars = some (pieces, after)) :
    goThrough rules (if isEscaped then .escaping delimiter else .inside delimiter) chars =
      goThrough rules .outside after := by
  induction chars generalizing isEscaped pieces with
  | nil => cases isEscaped <;> cases read
  | cons char chars ih =>
    rw [goThrough_cons]
    cases isEscaped with
    | true =>
      obtain ⟨found, inner, same⟩ := Option.map_eq_some_iff.mp read
      cases same
      exact ih inner
    | false =>
      rw [scan] at read
      simp only [Bool.false_eq_true, if_false, advance]
      split at read
      · rename_i closing
        cases read
        rw [if_pos closing]
        rfl
      · rename_i open'
        rw [if_neg open']
        split at read
        · rename_i backslash
          rw [if_pos backslash]
          exact ih read
        · rename_i ordinary
          obtain ⟨found, inner, same⟩ := Option.map_eq_some_iff.mp read
          cases same
          rw [if_neg ordinary]
          exact ih inner

/-- A character that is no delimiter leaves a reader between tokens. -/
theorem advance_outside {char : Char}
    (plain : rules.isSpace char = true ∨ rules.isWord char = true ∨ rules.isSymbol char = true) :
    advance rules .outside char = some .outside := by
  have listed : (rules.isSpace char || rules.isWord char || rules.isSymbol char) = true := by
    simpa [or_assoc] using plain
  rw [advance, if_pos listed]

/-- A delimiter opens a delimited text. -/
theorem advance_delimiter {char : Char} (delimits : rules.isDelimiter char = true) :
    advance rules .outside char = some (.inside char) := by
  have notBlank := (rules.delimiter_only char delimits).1
  have notWord : rules.isWord char = false := by
    by_contra isWord
    have other := (rules.word_only char (by simpa using isWord)).2
    rw [delimits] at other
    cases other
  have notSymbol : rules.isSymbol char = false := by
    by_contra isSymbol
    have other := (rules.symbol_only char (by simpa using isSymbol)).2.1
    rw [delimits] at other
    cases other
  simp [advance, notBlank, notWord, notSymbol, delimits]

/-- The characters of a word leave a reader between tokens. -/
theorem goThrough_word {word : List Char} (letters : ∀ char ∈ word, rules.isWord char = true)
    (rest : List Char) :
    goThrough rules .outside (word ++ rest) = goThrough rules .outside rest := by
  induction word with
  | nil => rfl
  | cons char word ih =>
    have letter := letters char List.mem_cons_self
    rw [List.cons_append, goThrough_cons, advance_outside (.inr (.inl letter))]
    exact ih fun other listed => letters other (List.mem_cons_of_mem _ listed)

/-- A text that has tokens ends between tokens. -/
theorem goThrough_of_tokensWithin {bound : Nat} {chars : List Char} {found : List Token}
    (read : tokensWithin rules bound chars = some found) :
    goThrough rules .outside chars = some .outside := by
  induction bound generalizing chars found with
  | zero =>
    cases chars with
    | nil => rfl
    | cons char chars => cases read
  | succ bound ih =>
    cases chars with
    | nil => rfl
    | cons char chars =>
      rw [tokensWithin] at read
      rw [goThrough_cons]
      split at read
      · rename_i blank
        rw [advance_outside (.inl blank)]
        exact ih read
      split at read
      · rename_i isDelimiter
        obtain ⟨⟨pieces, after⟩, scanned, read⟩ := Option.bind_eq_some_iff.mp read
        obtain ⟨later, read, -⟩ := Option.map_eq_some_iff.mp read
        have closed := @goThrough_of_scan rules char false chars after pieces scanned
        rw [advance_delimiter isDelimiter]
        exact closed.trans (ih read)
      split at read
      · rename_i isWord
        obtain ⟨later, read, -⟩ := Option.map_eq_some_iff.mp read
        rw [advance_outside (.inr (.inl isWord)), Option.bind_some]
        rw [← @List.takeWhile_append_dropWhile _ rules.isWord chars]
        rw [goThrough_word fun other listed => List.mem_takeWhile_imp listed]
        exact ih read
      split at read
      · rename_i isSymbol
        obtain ⟨later, read, -⟩ := Option.map_eq_some_iff.mp read
        rw [advance_outside (.inr (.inr isSymbol))]
        exact ih read
      · cases read

/-- A text whose tokens are computed ends between tokens. -/
theorem goThrough_of_tokens {chars : List Char} {found : List Token}
    (lexed : tokens rules chars = some found) :
    goThrough rules .outside chars = some .outside :=
  goThrough_of_tokensWithin lexed

/-- A delimited text that is left has been read up to its delimiter. -/
theorem scan_of_goThrough {delimiter : Char} {isEscaped : Bool} {chars : List Char}
    (left : goThrough rules (if isEscaped then .escaping delimiter else .inside delimiter) chars =
      some .outside) : ∃ pieces after, scan delimiter isEscaped chars = some (pieces, after) := by
  induction chars generalizing isEscaped with
  | nil => cases isEscaped <;> cases left
  | cons char chars ih =>
    rw [goThrough_cons] at left
    cases isEscaped with
    | true =>
      obtain ⟨pieces, after, read⟩ := @ih false left
      exact ⟨.escaped char :: pieces, after, by rw [scan, read]; rfl⟩
    | false =>
      rw [scan]
      simp only [Bool.false_eq_true, if_false, advance] at left
      split at left
      · rename_i closing
        rw [if_pos closing]
        exact ⟨[], chars, rfl⟩
      · rename_i open'
        rw [if_neg open']
        split at left
        · rename_i backslash
          rw [if_pos backslash]
          exact @ih true left
        · rename_i ordinary
          rw [if_neg ordinary]
          obtain ⟨pieces, after, read⟩ := @ih false left
          exact ⟨.plain char :: pieces, after, by rw [read]; rfl⟩

/-- A word that ends with a text, or before it, ends there in a longer text as well. -/
theorem dropWhile_word_append {chars rest : List Char} (ends : EndsWord rules rest) :
    (chars ++ rest).dropWhile rules.isWord = chars.dropWhile rules.isWord ++ rest := by
  induction chars with
  | nil =>
    cases rest with
    | nil => rfl
    | cons char rest =>
      have other : rules.isWord char = false := ends char rfl
      simp [other]
  | cons char chars ih =>
    rw [List.cons_append, List.dropWhile_cons, List.dropWhile_cons]
    split
    · exact ih
    · rfl

/-- A text that has tokens parts between tokens into texts that have them. -/
theorem tokensWithin_append {bound : Nat} {chars rest : List Char} {found : List Token}
    (read : tokensWithin rules bound (chars ++ rest) = some found)
    (between : goThrough rules .outside chars = some .outside) (ends : EndsWord rules rest) :
    ∃ first later, tokensWithin rules bound chars = some first ∧
      (∃ left, tokensWithin rules left rest = some later) ∧ found = first ++ later := by
  induction bound generalizing chars found with
  | zero =>
    cases chars with
    | nil => exact ⟨[], found, rfl, ⟨0, read⟩, rfl⟩
    | cons char chars => cases read
  | succ bound ih =>
    cases chars with
    | nil => exact ⟨[], found, rfl, ⟨bound + 1, read⟩, rfl⟩
    | cons char chars =>
      rw [List.cons_append, tokensWithin] at read
      rw [goThrough_cons] at between
      rw [tokensWithin]
      split at read
      · rename_i blank
        rw [advance_outside (.inl blank)] at between
        rw [if_pos blank]
        exact ih read between
      rename_i notBlank
      rw [if_neg notBlank]
      split at read
      · rename_i isDelimiter
        rw [if_pos isDelimiter]
        obtain ⟨⟨pieces, after⟩, scanned, read⟩ := Option.bind_eq_some_iff.mp read
        obtain ⟨later, read, same⟩ := Option.map_eq_some_iff.mp read
        rw [advance_delimiter isDelimiter] at between
        obtain ⟨own, left, closed⟩ := @scan_of_goThrough rules char false chars between
        have whole := scan_append closed rest
        obtain ⟨rfl, rfl⟩ := Prod.mk.inj (Option.some.inj (whole.symm.trans scanned))
        have behind : goThrough rules .outside left = some .outside :=
          (@goThrough_of_scan rules char false chars left own closed).symm.trans between
        obtain ⟨first, others, firstRead, othersRead, parts⟩ := ih read behind
        refine ⟨.quoted char own :: first, others, ?_, othersRead, ?_⟩
        · rw [closed, Option.bind_some, firstRead]
          rfl
        · rw [← same, parts]
          rfl
      rename_i notDelimiter
      rw [if_neg notDelimiter]
      split at read
      · rename_i isWord
        rw [if_pos isWord]
        obtain ⟨later, read, same⟩ := Option.map_eq_some_iff.mp read
        rw [advance_outside (.inr (.inl isWord)), Option.bind_some] at between
        rw [← @List.takeWhile_append_dropWhile _ rules.isWord chars] at between
        rw [goThrough_word fun other listed => List.mem_takeWhile_imp listed] at between
        have dropped := @dropWhile_word_append rules chars rest ends
        have taken : (chars ++ rest).takeWhile rules.isWord = chars.takeWhile rules.isWord := by
          have both := @List.takeWhile_append_dropWhile _ rules.isWord (chars ++ rest)
          have own := @List.takeWhile_append_dropWhile _ rules.isWord chars
          rw [dropped, ← List.append_assoc] at both
          have front := List.append_cancel_right both
          exact List.append_cancel_right (front.trans own.symm)
        rw [dropped] at read
        rw [taken] at same
        obtain ⟨first, others, firstRead, othersRead, parts⟩ := ih read between
        refine ⟨_ :: first, others, by rw [firstRead]; rfl, othersRead, ?_⟩
        rw [← same, parts]
        rfl
      rename_i notWord
      rw [if_neg notWord]
      split at read
      · rename_i isSymbol
        rw [if_pos isSymbol]
        obtain ⟨later, read, same⟩ := Option.map_eq_some_iff.mp read
        rw [advance_outside (.inr (.inr isSymbol))] at between
        obtain ⟨first, others, firstRead, othersRead, parts⟩ := ih read between
        refine ⟨.symbol char :: first, others, by rw [firstRead]; rfl, othersRead, ?_⟩
        rw [← same, parts]
        rfl
      · cases read

/-- Every word that is read is made of characters of words. -/
theorem word_of_mem {bound : Nat} {chars : List Char} {found : List Token}
    (read : tokensWithin rules bound chars = some found) {text : String}
    (listed : .word text ∈ found) :
    text ≠ "" ∧ ∀ char ∈ text.toList, rules.isWord char = true := by
  induction bound generalizing chars found with
  | zero =>
    cases chars with
    | nil =>
      cases read
      cases listed
    | cons char chars => cases read
  | succ bound ih =>
    cases chars with
    | nil =>
      cases read
      cases listed
    | cons char chars =>
      rw [tokensWithin] at read
      split at read
      · exact ih read listed
      split at read
      · obtain ⟨scanned, -, read⟩ := Option.bind_eq_some_iff.mp read
        obtain ⟨later, read, same⟩ := Option.map_eq_some_iff.mp read
        rw [← same] at listed
        cases listed with
        | tail _ listed => exact ih read listed
      split at read
      · rename_i isWord
        obtain ⟨later, read, same⟩ := Option.map_eq_some_iff.mp read
        rw [← same] at listed
        cases listed with
        | head =>
          constructor
          · simp [String.ext_iff]
          · intro other inside
            rw [String.toList_ofList] at inside
            cases inside with
            | head => exact isWord
            | tail _ inside => exact List.mem_takeWhile_imp inside
        | tail _ listed => exact ih read listed
      split at read
      · obtain ⟨later, read, same⟩ := Option.map_eq_some_iff.mp read
        rw [← same] at listed
        cases listed with
        | tail _ listed => exact ih read listed
      · cases read

end TacacsWeb.Library.Lexer
