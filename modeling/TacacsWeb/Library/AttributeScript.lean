import TacacsWeb.Library.Dict

/-!
# Scripts that set attributes and answer

A script is a list of statements, taken in order: one sets an attribute, one answers, and one
guards an answer or a block by a condition. A later assignment of an attribute replaces an
earlier one, and the first answer that is reached ends the run.
-/

namespace TacacsWeb.Library.AttributeScript

/-- The answer of a script. -/
inductive Verdict where
  /-- The request is granted, with the attributes set so far. -/
  | permit
  /-- The request is refused. -/
  | deny
deriving DecidableEq

/-- A statement, over the conditions and the values of the language. -/
inductive Statement (Condition Value : Type) where
  /-- Set an attribute. -/
  | set (name : String) (value : Value)
  /-- Answer. -/
  | answer (verdict : Verdict)
  /-- Answer under a condition. -/
  | answerIf (condition : Condition) (verdict : Verdict)
  /-- Run a block under a condition. -/
  | block (condition : Condition) (body : List (Statement Condition Value))

/-- The attributes set so far, and the answer once there is one. -/
structure Outcome (Value : Type) where
  /-- The attributes. -/
  attributes : Dict String Value
  /-- The answer. -/
  verdict : Option Verdict

variable {Condition Value : Type} (holds : Condition → Bool)

mutual

/-- Run one statement. -/
def run : Statement Condition Value → Dict String Value → Outcome Value
  | .set name value, attributes => ⟨attributes.set name value, none⟩
  | .answer verdict, attributes => ⟨attributes, some verdict⟩
  | .answerIf condition verdict, attributes =>
    ⟨attributes, if holds condition then some verdict else none⟩
  | .block condition body, attributes =>
    if holds condition then runAll body attributes else ⟨attributes, none⟩

/-- Run statements in order, up to the first answer. -/
def runAll : List (Statement Condition Value) → Dict String Value → Outcome Value
  | [], attributes => ⟨attributes, none⟩
  | statement :: rest, attributes =>
    match run statement attributes with
    | ⟨after, none⟩ => runAll rest after
    | answered => answered

end

mutual

/-- The names that a statement may set. -/
def names : Statement Condition Value → List String
  | .set name _ => [name]
  | .answer _ => []
  | .answerIf _ _ => []
  | .block _ body => namesAll body

/-- The names that a script may set. -/
def namesAll : List (Statement Condition Value) → List String
  | [] => []
  | statement :: rest => names statement ++ namesAll rest

end

/-- The attributes after assignments made in order. -/
def assigned (entries : List (String × Value)) (attributes : Dict String Value) :
    Dict String Value :=
  entries.foldl (fun reached entry => reached.set entry.1 entry.2) attributes

/-- Assignments, as statements. -/
def sets (entries : List (String × Value)) : List (Statement Condition Value) :=
  entries.map fun entry => .set entry.1 entry.2

variable {holds} {rest : List (Statement Condition Value)} {attributes : Dict String Value}

/-- A script that begins with assignments makes them and goes on. -/
theorem runAll_sets (entries : List (String × Value)) :
    runAll holds (sets entries ++ rest) attributes =
      runAll holds rest (assigned entries attributes) := by
  induction entries generalizing attributes with
  | nil => rfl
  | cons entry entries ih =>
    simp only [sets, List.map_cons, List.cons_append, runAll, run]
    exact ih

/-- A script that begins with an answer ends with it. -/
theorem runAll_answer (verdict : Verdict) :
    runAll holds (.answer verdict :: rest) attributes = ⟨attributes, some verdict⟩ := by
  simp only [runAll, run]

/-- A block whose condition holds, and which answers, ends the script. -/
theorem runAll_block {condition : Condition} {body : List (Statement Condition Value)}
    {after : Dict String Value} {verdict : Verdict} (applies : holds condition = true)
    (answered : runAll holds body attributes = ⟨after, some verdict⟩) :
    runAll holds (.block condition body :: rest) attributes = ⟨after, some verdict⟩ := by
  rw [runAll, run, if_pos applies, answered]

/-- A block whose condition does not hold is passed over. -/
theorem runAll_block_skip {condition : Condition} {body : List (Statement Condition Value)}
    (skips : holds condition = false) :
    runAll holds (.block condition body :: rest) attributes = runAll holds rest attributes := by
  rw [runAll, run, skips]
  rfl

/-- Guarded answers of one kind answer when one of their conditions holds. -/
theorem runAll_answersIf (conditions : List Condition) (verdict : Verdict) :
    runAll holds ((conditions.map fun condition => .answerIf condition verdict) ++ rest)
        attributes =
      if conditions.any holds then ⟨attributes, some verdict⟩
      else runAll holds rest attributes := by
  induction conditions with
  | nil => rfl
  | cons condition conditions ih =>
    rw [List.map_cons, List.cons_append, runAll, run, List.any_cons]
    cases met : holds condition with
    | true => rfl
    | false =>
      rw [Bool.false_or]
      exact ih

/-- The names of two scripts, one after the other. -/
theorem namesAll_append (first second : List (Statement Condition Value)) :
    namesAll (first ++ second) = namesAll first ++ namesAll second := by
  induction first with
  | nil => rfl
  | cons statement first ih =>
    rw [List.cons_append, namesAll, namesAll, ih, List.append_assoc]

/-- The names of assignments. -/
theorem namesAll_sets (entries : List (String × Value)) :
    namesAll (sets entries : List (Statement Condition Value)) = entries.map Prod.fst := by
  induction entries with
  | nil => rfl
  | cons entry entries ih =>
    rw [List.map_cons, ← ih]
    rfl

/-- Answers set no name. -/
theorem namesAll_answers {script : List (Statement Condition Value)}
    (answers : ∀ statement ∈ script, names statement = []) : namesAll script = [] := by
  induction script with
  | nil => rfl
  | cons statement script ih =>
    rw [namesAll, answers statement List.mem_cons_self,
      ih fun later listed => answers later (List.mem_cons_of_mem _ listed)]
    rfl

/-- An attribute that no assignment names keeps its value. -/
theorem assigned_get?_of_not_mem {entries : List (String × Value)} {name : String}
    (attributes : Dict String Value) (absent : name ∉ entries.map Prod.fst) :
    (assigned entries attributes).get? name = attributes.get? name := by
  induction entries generalizing attributes with
  | nil => rfl
  | cons entry entries ih =>
    rw [List.map_cons, List.mem_cons, not_or] at absent
    have later := ih (attributes.set entry.1 entry.2) absent.2
    rw [assigned, List.foldl_cons]
    exact later.trans (Dict.get?_set_of_ne attributes entry.2 absent.1)

/-- An attribute that one assignment names gets the value of that assignment. -/
theorem assigned_get?_of_mem {entries : List (String × Value)} {name : String} {value : Value}
    (attributes : Dict String Value) (distinct : (entries.map Prod.fst).Nodup)
    (listed : (name, value) ∈ entries) :
    (assigned entries attributes).get? name = some value := by
  induction entries generalizing attributes with
  | nil => cases listed
  | cons entry entries ih =>
    rw [List.map_cons, List.nodup_cons] at distinct
    rcases List.mem_cons.mp listed with rfl | later
    · have kept := assigned_get?_of_not_mem (attributes.set name value) distinct.1
      rw [assigned, List.foldl_cons]
      exact kept.trans (Dict.get?_set_self attributes name value)
    · exact ih (attributes.set entry.1 entry.2) distinct.2 later

end TacacsWeb.Library.AttributeScript
