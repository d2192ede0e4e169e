import TacacsWeb.Model.AdminRequests

/-!
# The profile editor

The form of `PrivilegeProfilesPage.tsx`: the values that it shows of a profile, what it submits for
them, and the PATCH that follows. The order of the properties of an object is left open, and what is
typed into a field is a text.
-/

namespace TacacsWeb.Model

open TacacsWeb.Library

/-! ## Values -/

/-- The characters that `String.prototype.trim` removes. -/
def isJsSpace (char : Char) : Bool :=
  let code := char.toNat
  9 ≤ code && code ≤ 13 || code = 32 || code = 160 || code = 5760 ||
    8192 ≤ code && code ≤ 8202 || code = 8232 || code = 8233 || code = 8239 || code = 8287 ||
    code = 12288 || code = 65279

/-- `text.trim()`. -/
def jsTrim (text : String) : String :=
  String.ofList (Text.dropEndWhile isJsSpace (text.toList.dropWhile isJsSpace))

/-- `object[key] = value` for a text: the setter of `__proto__` takes none. -/
def setProperty (object : Dict String String) (key value : String) : Dict String String :=
  if key = "__proto__" then object else object.set key value

/-- `AvPairRow`. -/
structure AvPairRow where
  /-- The attribute. -/
  key : String
  /-- Its value. -/
  value : String
deriving DecidableEq

/-- `FormValues`. -/
structure FormValues where
  /-- The name. -/
  name : String
  /-- The level of a shell session. -/
  tacacsPrivLvl : Int
  /-- Patterns of permitted commands. -/
  permitCommandsRegex : List String
  /-- Patterns of denied commands. -/
  denyCommandsRegex : List String
  /-- Further attributes, row by row. -/
  extraAvPairs : List AvPairRow
  /-- Free text. -/
  description : String
deriving DecidableEq

/-- `PrivilegeProfileInput`. -/
structure PrivilegeProfileInput where
  /-- The name. -/
  name : String
  /-- The level of a shell session. -/
  tacacsPrivLvl : Int
  /-- Patterns of permitted commands. -/
  permitCommandsRegex : List String
  /-- Patterns of denied commands. -/
  denyCommandsRegex : List String
  /-- Further attributes. -/
  extraAvPairs : Dict String String
  /-- Free text, or `null`. -/
  description : Option String

/-- The loop of `toInput`. -/
def toPairs (rows : List AvPairRow) : Dict String String :=
  rows.foldl (fun pairs row =>
    let key := jsTrim row.key
    if key = "" then pairs else setProperty pairs key row.value) ∅

/-- `toInput`. -/
def toInput (values : FormValues) : PrivilegeProfileInput where
  name := jsTrim values.name
  tacacsPrivLvl := values.tacacsPrivLvl
  permitCommandsRegex := values.permitCommandsRegex
  denyCommandsRegex := values.denyCommandsRegex
  extraAvPairs := toPairs values.extraAvPairs
  description := if jsTrim values.description = "" then none else some (jsTrim values.description)

/-- `toFormValues`. -/
def toFormValues : Option PrivilegeProfile → FormValues
  | none => ⟨"", 1, [], [], [], ""⟩
  | some row =>
    { name := row.name
      tacacsPrivLvl := row.tacacsPrivLvl
      permitCommandsRegex := row.permitCommandsRegex
      denyCommandsRegex := row.denyCommandsRegex
      extraAvPairs := row.extraAvPairs.items.map fun entry => ⟨entry.1, entry.2⟩
      description := row.description.getD "" }

/-! ## Submitting -/

/-- `validate` of the form. -/
def FormValues.submittable (values : FormValues) : Bool :=
  jsTrim values.name ≠ "" && 0 ≤ values.tacacsPrivLvl && values.tacacsPrivLvl ≤ 15

/-- What holds of a value holds of it as an option. -/
theorem holds_of_given {Value : Type} {property : Value → Prop} {value : Value}
    (holds : property value) : ∀ other ∈ some value, property other := by
  intro other listed
  rw [← Option.some.inj listed]
  exact holds

/-- The input as `PrivilegeProfileUpdate`, none where its validation answers 422. A `null` is `None`,
which is the default as well. -/
def PrivilegeProfileInput.payload (input : PrivilegeProfileInput) : Option PrivilegeProfileUpdate :=
  if valid : (1 ≤ input.name.length ∧ input.name.length ≤ 128) ∧
      (0 ≤ input.tacacsPrivLvl ∧ input.tacacsPrivLvl ≤ 15) ∧
      ∀ value ∈ input.description, value.length ≤ 2048 then
    some {
      name := some input.name
      tacacsPrivLvl := some input.tacacsPrivLvl
      permitCommandsRegex := some input.permitCommandsRegex
      denyCommandsRegex := some input.denyCommandsRegex
      extraAvPairs := some input.extraAvPairs
      description := input.description
      nameLength := holds_of_given valid.1
      privLvlRange := holds_of_given valid.2.1
      descriptionLength := valid.2.2 }
  else none

/-- What a click on save runs, none where the form or the validation refuses the values. -/
def submitForm (printable : Char → Bool) (ctx : SessionContext) (profileId : Int)
    (values : FormValues) : Option AdminScript :=
  if values.submittable then
    (toInput values).payload.map fun payload =>
      updatePrivilegeProfileHandler printable ctx profileId payload
  else none

end TacacsWeb.Model
