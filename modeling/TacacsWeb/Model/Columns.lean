import Mathlib.Data.Nat.Notation

/-!
# Column types

What a column of the migrated schema takes: a text within its width, an integer of 32 bits.
Postgres refuses any other value when the row is flushed.
-/

namespace TacacsWeb.Model

/-- A text that a column takes: within the width, if it has one, and without a NUL. -/
def textFits (width : Option Nat) (text : Option String) : Bool :=
  text.all fun text => width.all (text.length ≤ ·) && !text.toList.contains '\x00'

/-- A value of an `integer` column. -/
def integerFits (value : Option Int) : Bool :=
  value.all fun value => -2147483648 ≤ value && value ≤ 2147483647

end TacacsWeb.Model
