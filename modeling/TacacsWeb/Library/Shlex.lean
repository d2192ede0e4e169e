import Mathlib.Data.List.Basic

/-!
# Shell-like splitting

`shlex.split(text)` of Python in its default mode: words are separated by blanks, quotes
and backslashes group and escape as in a POSIX shell, and there are no comments. The state
machine is the one of `shlex.read_token`, run over the whole text.
-/

namespace TacacsWeb.Library.Shlex

/-- The states of the machine. -/
inductive State where
  /-- Between words. -/
  | space
  /-- In a word. -/
  | word
  /-- In a quoted part, by its quote. -/
  | quote (mark : Char)
  /-- After a backslash, in a quoted part or outside. -/
  | escape (mark : Option Char)
deriving DecidableEq

/-- `whitespace`. -/
def isWhitespace (char : Char) : Bool :=
  char = ' ' || char = '\t' || char = '\r' || char = '\n'

/-- `quotes`. -/
def isQuote (char : Char) : Bool := char = '\'' || char = '"'

/-- The state after the character that an escape protects. -/
def afterEscape : Option Char → State
  | none => .word
  | some mark => .quote mark

/-- What an escape adds to the token: in a quoted part only the quote and the backslash
themselves lose the backslash. -/
def escaped (mark : Option Char) (char : Char) : List Char :=
  match mark with
  | none => [char]
  | some mark => if char = '\\' ∨ char = mark then [char] else ['\\', char]

/-- The words of the rest of the text, after a part of a word that may have been quoted. -/
def wordsFrom (state : State) (token : List Char) (quoted : Bool) :
    List Char → Option (List (List Char))
  | [] =>
    match state with
    | .space => some []
    | .word => some (if token = [] ∧ quoted = false then [] else [token])
    | .quote _ => none
    | .escape _ => none
  | char :: rest =>
    match state with
    | .space =>
      if isWhitespace char then wordsFrom .space [] false rest
      else if char = '\\' then wordsFrom (.escape none) [] false rest
      else if isQuote char then wordsFrom (.quote char) [] false rest
      else wordsFrom .word [char] false rest
    | .word =>
      if isWhitespace char then
        if token = [] ∧ quoted = false then wordsFrom .space [] false rest
        else (wordsFrom .space [] false rest).map fun words => token :: words
      else if isQuote char then wordsFrom (.quote char) token quoted rest
      else if char = '\\' then wordsFrom (.escape none) token quoted rest
      else wordsFrom .word (token ++ [char]) quoted rest
    | .quote mark =>
      if char = mark then wordsFrom .word token true rest
      else if char = '\\' ∧ mark = '"' then wordsFrom (.escape (some mark)) token true rest
      else wordsFrom (.quote mark) (token ++ [char]) true rest
    | .escape mark => wordsFrom (afterEscape mark) (token ++ escaped mark char) quoted rest

/-- `shlex.split(text)`, none where it raises `ValueError`. -/
def split (text : List Char) : Option (List (List Char)) := wordsFrom .space [] false text

/-! ## Words that end in a quoted part -/

/-- A character that stands for itself in a word. -/
def isPlain (char : Char) : Bool := !isWhitespace char && !isQuote char && char ≠ '\\'

/-- A character between double quotes as it is written. -/
def escapeChar (char : Char) : List Char :=
  if char = '\\' ∨ char = '"' then ['\\', char] else [char]

/-- A word that begins as it is and ends between double quotes. -/
structure Word where
  /-- The beginning. -/
  front : List Char
  /-- What the quotes hold. -/
  quoted : List Char

/-- The word as it is written. -/
def Word.write (word : Word) : List Char :=
  word.front ++ '"' :: word.quoted.flatMap escapeChar ++ ['"']

/-- The word itself. -/
def Word.text (word : Word) : List Char := word.front ++ word.quoted

/-- Words are written one after the other, with blanks between them. -/
inductive Renders (blank : Char → Prop) : List Word → List Char → Prop
  /-- No word. -/
  | none : Renders blank [] []
  /-- The last word. -/
  | last (word : Word) : Renders blank [word] word.write
  /-- A word before others. -/
  | cons (word : Word) {others : List Word} {text : List Char} (blanks : List Char)
    (separated : blanks ≠ []) (between : ∀ char ∈ blanks, blank char) (more : others ≠ [])
    (rest : Renders blank others text) : Renders blank (word :: others) (word.write ++ blanks ++ text)

/-- A plain part is added to the word. -/
theorem wordsFrom_plain {plain : List Char} (each : ∀ char ∈ plain, isPlain char = true)
    (token : List Char) (quoted : Bool) (rest : List Char) :
    wordsFrom .word token quoted (plain ++ rest) = wordsFrom .word (token ++ plain) quoted rest := by
  induction plain generalizing token with
  | nil => rw [List.nil_append, List.append_nil]
  | cons char plain ih =>
    have one := each char List.mem_cons_self
    have others := ih fun other listed => each other (List.mem_cons_of_mem char listed)
    simp only [isPlain, Bool.and_eq_true, Bool.not_eq_true', decide_eq_true_eq] at one
    obtain ⟨⟨visible, unquoted⟩, unescaped⟩ := one
    rw [List.cons_append, wordsFrom]
    simp only [visible, unquoted, unescaped, Bool.false_eq_true, if_false]
    rw [others, List.append_assoc, List.singleton_append]

/-- A quoted part is added to the word. -/
theorem wordsFrom_quoted (value token : List Char) (quoted : Bool) (rest : List Char) :
    wordsFrom (.quote '"') token quoted (value.flatMap escapeChar ++ '"' :: rest) =
      wordsFrom .word (token ++ value) true rest := by
  induction value generalizing token quoted with
  | nil =>
    rw [List.flatMap_nil, List.nil_append, List.append_nil, wordsFrom]
    simp
  | cons char value ih =>
    rw [List.flatMap_cons, List.append_assoc, escapeChar]
    by_cases escaped : char = '\\' ∨ char = '"'
    · have added : Shlex.escaped (some '"') char = [char] := if_pos escaped
      rw [if_pos escaped, List.cons_append, List.singleton_append, wordsFrom]
      simp only [Char.reduceEq, and_self, if_true, if_false]
      rw [wordsFrom, added, afterEscape, ih, List.append_assoc, List.singleton_append]
    · have other : char ≠ '"' ∧ char ≠ '\\' := ⟨fun same => escaped (.inr same), fun same =>
        escaped (.inl same)⟩
      rw [if_neg escaped, List.singleton_append, wordsFrom]
      simp only [other.1, other.2, false_and, if_false]
      rw [ih, List.append_assoc, List.singleton_append]

/-- Blanks between words are skipped. -/
theorem wordsFrom_blanks {blanks : List Char} (each : ∀ char ∈ blanks, isWhitespace char = true)
    (rest : List Char) :
    wordsFrom .space [] false (blanks ++ rest) = wordsFrom .space [] false rest := by
  induction blanks with
  | nil => rfl
  | cons char blanks ih =>
    have one := each char List.mem_cons_self
    rw [List.cons_append, wordsFrom]
    simp only [one, if_true]
    exact ih fun other listed => each other (List.mem_cons_of_mem char listed)

/-- A word whose beginning is plain and not empty. -/
def Word.IsPlain (word : Word) : Prop :=
  word.front ≠ [] ∧ ∀ char ∈ word.front, isPlain char = true

/-- A word is read up to its closing quote. -/
theorem wordsFrom_write {word : Word} (plain : word.IsPlain) (rest : List Char) :
    wordsFrom .space [] false (word.write ++ rest) = wordsFrom .word word.text true rest := by
  obtain ⟨given, each⟩ := plain
  obtain ⟨first, others, front⟩ := List.exists_cons_of_ne_nil given
  have shape : word.write ++ rest =
      first :: (others ++ '"' :: (word.quoted.flatMap escapeChar ++ '"' :: rest)) := by
    simp [Word.write, front]
  have one := each first (front ▸ List.mem_cons_self)
  have later : ∀ char ∈ others, isPlain char = true := fun char listed =>
    each char (front ▸ List.mem_cons_of_mem first listed)
  simp only [isPlain, Bool.and_eq_true, Bool.not_eq_true', decide_eq_true_eq] at one
  obtain ⟨⟨visible, unquoted⟩, unescaped⟩ := one
  rw [shape, wordsFrom]
  simp only [visible, unquoted, unescaped, Bool.false_eq_true, if_false]
  rw [wordsFrom_plain later, wordsFrom]
  have mark : isWhitespace '"' = false ∧ isQuote '"' = true := by decide
  simp only [mark, Bool.false_eq_true, if_false, if_true]
  rw [wordsFrom_quoted, Word.text, front, List.singleton_append]

/-- Written words are split into the words that were written. -/
theorem split_rendered {blank : Char → Prop} (white : ∀ char, blank char → isWhitespace char = true)
    {words : List Word} {text : List Char} (rendered : Renders blank words text)
    (plain : ∀ word ∈ words, word.IsPlain) : split text = some (words.map Word.text) := by
  unfold split
  induction rendered with
  | none => rfl
  | last word =>
    have read := wordsFrom_write (plain word List.mem_cons_self) []
    rw [List.append_nil] at read
    rw [read, wordsFrom]
    simp
  | @cons word others text blanks separated between more rest ih =>
    have later := ih fun other listed => plain other (List.mem_cons_of_mem word listed)
    obtain ⟨first, blanks, rfl⟩ := List.exists_cons_of_ne_nil separated
    have space := white first (between first List.mem_cons_self)
    have spaces : ∀ char ∈ blanks, isWhitespace char = true := fun char listed =>
      white char (between char (List.mem_cons_of_mem first listed))
    rw [List.append_assoc, wordsFrom_write (plain word List.mem_cons_self), List.cons_append,
      wordsFrom]
    simp only [space, Bool.true_eq_false, and_false, if_true, if_false]
    rw [wordsFrom_blanks spaces, later]
    rfl

/-- Other blanks between the same words. -/
theorem Renders.map {blank other : Char → Prop} {words : List Word} {text : List Char}
    (rendered : Renders blank words text) {change : Char → Char}
    (kept : ∀ word ∈ words, ∀ char ∈ word.write, change char = char)
    (changed : ∀ char, blank char → other (change char)) :
    Renders other words (text.map change) := by
  have same : ∀ {word}, word ∈ words → word.write.map change = word.write := by
    intro word listed
    calc
      word.write.map change = word.write.map id := List.map_congr_left (kept word listed)
      _ = word.write := List.map_id word.write
  induction rendered with
  | none => exact .none
  | last word =>
    rw [same List.mem_cons_self]
    exact .last word
  | @cons word others text blanks separated between more rest ih =>
    have later := ih (fun other listed => kept other (List.mem_cons_of_mem word listed))
      fun listed => same (List.mem_cons_of_mem word listed)
    rw [List.map_append, List.map_append, same List.mem_cons_self]
    refine .cons word (blanks.map change) ?_ ?_ more later
    · intro empty
      exact separated (List.map_eq_nil_iff.mp empty)
    · intro char listed
      obtain ⟨before, present, rfl⟩ := List.mem_map.mp listed
      exact changed before (between before present)

/-- The characters of a written word. -/
theorem mem_write {word : Word} {char : Char} (listed : char ∈ word.write) :
    char ∈ word.text ∨ char = '"' ∨ char = '\\' := by
  simp only [Word.write, List.append_assoc, List.cons_append, List.mem_append, List.mem_cons,
    List.mem_flatMap, List.not_mem_nil, or_false] at listed
  rcases listed with front | quote | ⟨original, present, inside⟩ | quote
  · exact .inl (List.mem_append_left _ front)
  · exact .inr (.inl quote)
  · rw [escapeChar] at inside
    split at inside
    · simp only [List.mem_cons, List.not_mem_nil, or_false] at inside
      cases inside with
      | inl backslash => exact .inr (.inr backslash)
      | inr same => exact .inl (List.mem_append_right _ (same ▸ present))
    · rw [List.mem_singleton.mp inside]
      exact .inl (List.mem_append_right _ present)
  · exact .inr (.inl quote)

/-- Without words nothing is written. -/
theorem Renders.eq_nil {blank : Char → Prop} {text : List Char}
    (rendered : Renders blank [] text) : text = [] := by
  cases rendered
  rfl

/-- Written words hold their own characters and the blanks. -/
theorem Renders.mem {blank : Char → Prop} {words : List Word} {text : List Char}
    (rendered : Renders blank words text) {char : Char} (listed : char ∈ text) :
    (∃ word ∈ words, char ∈ word.write) ∨ blank char := by
  induction rendered with
  | none => cases listed
  | last word => exact .inl ⟨word, List.mem_cons_self, listed⟩
  | @cons word others text blanks separated between more rest ih =>
    cases List.mem_append.mp listed with
    | inl front =>
      cases List.mem_append.mp front with
      | inl inWord => exact .inl ⟨word, List.mem_cons_self, inWord⟩
      | inr inBlanks => exact .inr (between char inBlanks)
    | inr inRest =>
      cases ih inRest with
      | inl later =>
        obtain ⟨other, present, inside⟩ := later
        exact .inl ⟨other, List.mem_cons_of_mem word present, inside⟩
      | inr white => exact .inr white

/-- Written words begin as a word begins and end with a quote. -/
theorem Renders.ends {blank : Char → Prop} {words : List Word} {text : List Char}
    (rendered : Renders blank words text) (given : words ≠ []) :
    (∃ word ∈ words, ∃ rest, text = word.front ++ rest) ∧ ∃ before, text = before ++ ['"'] := by
  induction rendered with
  | none => exact absurd rfl given
  | last word =>
    refine ⟨⟨word, List.mem_cons_self, '"' :: word.quoted.flatMap escapeChar ++ ['"'], ?_⟩,
      word.front ++ '"' :: word.quoted.flatMap escapeChar, rfl⟩
    simp [Word.write]
  | @cons word others text blanks separated between more rest ih =>
    obtain ⟨_, before, same⟩ := ih more
    refine ⟨⟨word, List.mem_cons_self,
      '"' :: word.quoted.flatMap escapeChar ++ ['"'] ++ blanks ++ text, ?_⟩,
      word.write ++ blanks ++ before, ?_⟩
    · simp [Word.write]
    · simp [same]

end TacacsWeb.Library.Shlex
