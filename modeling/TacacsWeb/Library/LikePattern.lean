import Mathlib.Data.List.Basic

/-!
# Patterns of LIKE

`text LIKE pattern` as Postgres evaluates it: `%` stands for any characters, `_` for one, and a
backslash takes the next character as it is. A backslash at the end is an error, which is only
noticed when the text before it has matched. A pattern without any of the three matches itself.
-/

namespace TacacsWeb.Library.LikePattern

/-- A character that a pattern does not take as it is. -/
def isSpecial (char : Char) : Bool := char = '%' || char = '_' || char = '\\'

/-- The first result at some position behind a character that is no plain mismatch. -/
def scan (rest : List Char → Option Bool) (first : Char) : List Char → Option Bool
  | [] => some false
  | char :: text =>
    if char = first then
      match rest text with
      | some false => scan rest first text
      | found => found
    else scan rest first text

/-- A character that is taken as it is, here or, behind a `%`, at some position. -/
def literal (rest : List Char → Option Bool) (first : Char) (wild : Bool) (text : List Char) :
    Option Bool :=
  if wild then scan rest first text
  else match text with
    | [] => some false
    | char :: text => if char = first then rest text else some false

/-- Whether a text matches a pattern, and none for the error. The flag says that a `%` stands just
before the pattern. -/
def like : List Char → Bool → List Char → Option Bool
  | [], wild, text => some (wild || text.isEmpty)
  | char :: pattern, wild, text =>
    if char = '%' then
      if !wild && text.isEmpty then some (pattern.all (· = '%')) else like pattern true text
    else if char = '_' then
      match text with
      | [] => some false
      | _ :: text => like pattern wild text
    else if char = '\\' then
      match pattern with
      | [] => if wild || !text.isEmpty then none else some false
      | escaped :: pattern => literal (like pattern false) escaped wild text
    else literal (like pattern false) char wild text

/-- `text LIKE pattern`. -/
def matchesLike (pattern text : List Char) : Option Bool := like pattern false text

/-- A pattern without special characters matches itself and nothing else. -/
theorem matchesLike_plain {pattern text : List Char}
    (plain : ∀ char ∈ pattern, isSpecial char = false) :
    matchesLike pattern text = some (decide (text = pattern)) := by
  unfold matchesLike
  induction pattern generalizing text with
  | nil => cases text <;> simp [like]
  | cons char pattern ih =>
    have ordinary := plain char List.mem_cons_self
    simp only [isSpecial, Bool.or_eq_false_iff, decide_eq_false_iff_not] at ordinary
    have rest (text : List Char) := @ih text fun other listed =>
      plain other (List.mem_cons_of_mem _ listed)
    rw [like.eq_def]
    simp only [ordinary, if_false, literal, Bool.false_eq_true]
    cases text with
    | nil => simp
    | cons head text =>
      by_cases same : head = char
      · simp [same, rest]
      · simp [same]

end TacacsWeb.Library.LikePattern
