import Mathlib.Data.Nat.Notation

/-!
# Python strings and JSON values

What `json.loads` returns, as the Python values that the code gets to see. A `\u` escape of JSON
may stand for half of a surrogate pair, so a string is not always a text.
-/

namespace TacacsWeb.Model

/-- A Python string: a text, or one with a lone surrogate. -/
inductive PyString where
  /-- A string of Unicode scalar values. -/
  | text (value : String)
  /-- A string in which a lone surrogate stands, as its code points. -/
  | surrogates (codePoints : List Nat)
deriving DecidableEq

/-- The code points of a string. -/
def PyString.codePoints : PyString → List Nat
  | .text value => value.toList.map Char.toNat
  | .surrogates codePoints => codePoints

/-- The string of some code points. -/
def PyString.ofCodePoints (codePoints : List Nat) : PyString :=
  if codePoints.all fun codePoint => codePoint.isValidChar then
    .text (String.ofList (codePoints.map Char.ofNat))
  else .surrogates codePoints

/-- The code points of a text give the text back. -/
theorem PyString.ofCodePoints_text (value : String) :
    PyString.ofCodePoints (PyString.codePoints (.text value)) = .text value := by
  have valid : ((value.toList.map Char.toNat).all fun codePoint =>
      decide codePoint.isValidChar) = true := by
    apply List.all_eq_true.mpr
    intro codePoint listed
    obtain ⟨char, -, same⟩ := List.mem_map.mp listed
    rw [← same]
    exact decide_eq_true char.valid
  have back : (value.toList.map Char.toNat).map Char.ofNat = value.toList := by
    have each : ∀ char ∈ value.toList, (Char.ofNat ∘ Char.toNat) char = id char :=
      fun char _ => Char.ofNat_toNat char
    rw [List.map_map, List.map_congr_left each, List.map_id]
  unfold PyString.ofCodePoints PyString.codePoints
  rw [if_pos valid, back, String.ofList_toList]

/-- A value that `json.loads` returns. -/
inductive Json where
  /-- `None`. -/
  | null
  /-- `True` or `False`. -/
  | bool (value : Bool)
  /-- An `int` or a `float`, by its literal. -/
  | number (literal : String)
  /-- A `str`. -/
  | string (value : PyString)
  /-- A `list`. -/
  | array (elements : List Json)
  /-- A `dict`, by the members in the order of the text. -/
  | object (members : List (PyString × Json))

namespace Json

/-- `members.get(key)`: a later member replaces an earlier one of the same name. -/
def member (key : String) (members : List (PyString × Json)) : Json :=
  ((members.reverse.find? fun entry => entry.1 = .text key).map Prod.snd).getD null

/-- Whether `hash` accepts the value. -/
def hashable : Json → Bool
  | array _ => false
  | object _ => false
  | _ => true

/-- The value when it is a string. -/
def asString : Json → Option PyString
  | string value => some value
  | _ => none

end Json

end TacacsWeb.Model
