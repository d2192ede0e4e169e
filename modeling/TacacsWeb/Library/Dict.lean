import Mathlib.Data.List.Basic
import Mathlib.Data.List.Induction
import Mathlib.Data.List.Nodup

/-!
# Insertion-ordered dictionaries

A Python dictionary as its list of entries in insertion order. Assigning to a present key
keeps the key's place, assigning to a new one appends it, and the structure carries the
proof that no key occurs twice, so lookup never depends on which entry is found first.
-/

namespace TacacsWeb.Library

/-- A finite map that remembers the order in which its keys were first assigned. -/
structure Dict (Key Value : Type) where
  /-- The items in insertion order. -/
  items : List (Key × Value)
  /-- No key occurs twice. -/
  nodup : (items.map Prod.fst).Nodup
deriving DecidableEq

namespace Dict

variable {Key Value : Type}

/-- The dictionary without entries. -/
def empty : Dict Key Value := ⟨[], List.nodup_nil⟩

instance : EmptyCollection (Dict Key Value) := ⟨empty⟩

instance : Inhabited (Dict Key Value) := ⟨empty⟩

/-- The keys in insertion order. -/
def keys (dict : Dict Key Value) : List Key := dict.items.map Prod.fst

variable [DecidableEq Key]

/-- Assign a value in a list of entries, in place when the key is present. -/
def assign (key : Key) (value : Value) : List (Key × Value) → List (Key × Value)
  | [] => [(key, value)]
  | entry :: entries =>
    if entry.1 = key then (key, value) :: entries else entry :: assign key value entries

/-- Assignment adds at most the assigned key. -/
theorem mem_keys_assign {key other : Key} {value : Value} {entries : List (Key × Value)} :
    other ∈ (assign key value entries).map Prod.fst ↔
      other = key ∨ other ∈ entries.map Prod.fst := by
  induction entries with
  | nil => simp [assign]
  | cons entry entries ih =>
    unfold assign
    split
    · rename_i same
      simp [same]
    · simp only [List.map_cons, List.mem_cons, ih]
      tauto

/-- Assignment keeps the keys distinct. -/
theorem assign_nodup {key : Key} {value : Value} {entries : List (Key × Value)}
    (distinct : (entries.map Prod.fst).Nodup) :
    ((assign key value entries).map Prod.fst).Nodup := by
  induction entries with
  | nil => simp [assign]
  | cons entry entries ih =>
    rw [List.map_cons, List.nodup_cons] at distinct
    unfold assign
    split
    · rename_i same
      rw [List.map_cons, List.nodup_cons]
      exact ⟨same ▸ distinct.1, distinct.2⟩
    · rename_i different
      rw [List.map_cons, List.nodup_cons, mem_keys_assign]
      exact ⟨fun found => found.elim different distinct.1, ih distinct.2⟩

/-- `dict[key] = value`. -/
def set (dict : Dict Key Value) (key : Key) (value : Value) : Dict Key Value :=
  ⟨assign key value dict.items, assign_nodup dict.nodup⟩

/-- The value of the first entry with the key. -/
def lookup (key : Key) (entries : List (Key × Value)) : Option Value :=
  (entries.find? fun entry => entry.1 = key).map Prod.snd

/-- The assigned key is found with the assigned value. -/
theorem lookup_assign_self (key : Key) (value : Value) (entries : List (Key × Value)) :
    lookup key (assign key value entries) = some value := by
  induction entries with
  | nil => simp [lookup, assign]
  | cons entry entries ih =>
    by_cases same : entry.1 = key
    · simp [lookup, assign, same]
    · simpa [lookup, assign, same] using ih

/-- Assignment leaves every other key as it was. -/
theorem lookup_assign_of_ne {key other : Key} (value : Value) (entries : List (Key × Value))
    (different : other ≠ key) : lookup other (assign key value entries) = lookup other entries := by
  induction entries with
  | nil => simp [lookup, assign, different.symm]
  | cons entry entries ih =>
    by_cases same : entry.1 = key
    · simp [lookup, assign, same, different.symm]
    · have kept : assign key value (entry :: entries) = entry :: assign key value entries :=
        if_neg same
      rw [kept]
      by_cases found : entry.1 = other
      · simp [lookup, found]
      · simpa [lookup, found] using ih

/-- `dict.get(key)`. -/
def get? (dict : Dict Key Value) (key : Key) : Option Value := lookup key dict.items

/-- `dict.get(key, default)`. -/
def getD (dict : Dict Key Value) (key : Key) (default : Value) : Value :=
  (dict.get? key).getD default

/-- The dictionary with the given assignments made in order. -/
def ofList (assignments : List (Key × Value)) : Dict Key Value :=
  assignments.foldl (fun dict entry => dict.set entry.1 entry.2) empty

@[simp]
theorem get?_emptyCollection (key : Key) : (∅ : Dict Key Value).get? key = none := rfl

@[simp]
theorem get?_set_self (dict : Dict Key Value) (key : Key) (value : Value) :
    (dict.set key value).get? key = some value :=
  lookup_assign_self key value dict.items

@[simp]
theorem get?_set_of_ne (dict : Dict Key Value) {key other : Key} (value : Value)
    (different : other ≠ key) : (dict.set key value).get? other = dict.get? other :=
  lookup_assign_of_ne value dict.items different

/-- Lookup after an assignment. -/
theorem get?_set (dict : Dict Key Value) (key other : Key) (value : Value) :
    (dict.set key value).get? other = if other = key then some value else dict.get? other := by
  by_cases same : other = key
  · rw [if_pos same, same, get?_set_self]
  · rw [if_neg same, get?_set_of_ne dict value same]

/-- Lookup finds exactly the items. -/
theorem get?_eq_some_iff {dict : Dict Key Value} {key : Key} {value : Value} :
    dict.get? key = some value ↔ (key, value) ∈ dict.items := by
  simp only [get?, lookup, Option.map_eq_some_iff]
  constructor
  · rintro ⟨entry, found, rfl⟩
    have same : entry.1 = key := by simpa using List.find?_some found
    exact same ▸ List.mem_of_find?_eq_some found
  · intro listed
    refine ⟨(key, value), ?_, rfl⟩
    cases found : dict.items.find? fun entry => entry.1 = key with
    | none => simpa using List.find?_eq_none.mp found (key, value) listed
    | some entry =>
      have same : entry.1 = key := by simpa using List.find?_some found
      have present := List.mem_of_find?_eq_some found
      rw [List.inj_on_of_nodup_map dict.nodup present listed same]

/-- Assigning distinct keys in order adds exactly their entries. -/
theorem get?_foldl_set {entries : List (Key × Value)} (distinct : (entries.map Prod.fst).Nodup)
    (dict : Dict Key Value) {key : Key} {value : Value} :
    (entries.foldl (fun dict entry => dict.set entry.1 entry.2) dict).get? key = some value ↔
      (key, value) ∈ entries ∨ key ∉ entries.map Prod.fst ∧ dict.get? key = some value := by
  induction entries generalizing dict with
  | nil => simp
  | cons entry entries ih =>
    rw [List.map_cons, List.nodup_cons] at distinct
    rw [List.foldl_cons, ih distinct.2, get?_set, List.map_cons, List.mem_cons, List.mem_cons,
      not_or]
    by_cases same : key = entry.1
    · subst same
      rw [if_pos rfl]
      constructor
      · rintro (later | ⟨-, assigned⟩)
        · exact absurd (List.mem_map_of_mem later) distinct.1
        · exact .inl (.inl (Prod.ext rfl (Option.some.inj assigned).symm))
      · rintro ((first | later) | ⟨⟨different, -⟩, -⟩)
        · exact .inr ⟨distinct.1, congrArg some (congrArg Prod.snd first).symm⟩
        · exact .inl later
        · exact absurd rfl different
    · rw [if_neg same]
      constructor
      · rintro (later | ⟨absent, before⟩)
        · exact .inl (.inr later)
        · exact .inr ⟨⟨same, absent⟩, before⟩
      · rintro ((first | later) | ⟨⟨-, absent⟩, before⟩)
        · exact absurd (congrArg Prod.fst first) same
        · exact .inl later
        · exact .inr ⟨absent, before⟩

/-- The value that a key was assigned last. -/
def lastValue (key : Key) (assignments : List (Key × Value)) : Option Value :=
  lookup key assignments.reverse

/-- The last value of a key was assigned to it. -/
theorem mem_of_lastValue {key : Key} {value : Value} {assignments : List (Key × Value)}
    (last : lastValue key assignments = some value) : (key, value) ∈ assignments := by
  obtain ⟨entry, found, same⟩ := Option.map_eq_some_iff.mp last
  have named : entry.1 = key := by simpa using List.find?_some found
  have listed := List.mem_reverse.mp (List.mem_of_find?_eq_some found)
  rw [← named, ← same]
  exact listed

/-- A key that was assigned a value has a last one. -/
theorem exists_lastValue {key : Key} {value : Value} {assignments : List (Key × Value)}
    (listed : (key, value) ∈ assignments) : ∃ last, lastValue key assignments = some last := by
  unfold lastValue lookup
  cases found : assignments.reverse.find? fun entry => entry.1 = key with
  | none =>
    have absent := List.find?_eq_none.mp found (key, value) (List.mem_reverse.mpr listed)
    simp at absent
  | some entry => exact ⟨entry.2, rfl⟩

/-- The items of a dictionary are assignments that make it. -/
theorem lastValue_items (dict : Dict Key Value) (key : Key) :
    lastValue key dict.items = dict.get? key := by
  apply Option.ext
  intro value
  rw [get?_eq_some_iff]
  constructor
  · exact mem_of_lastValue
  · intro listed
    obtain ⟨last, found⟩ := exists_lastValue listed
    have other := mem_of_lastValue found
    have same : value = last :=
      congrArg Prod.snd (List.inj_on_of_nodup_map dict.nodup listed other rfl)
    rw [found, same]

/-- The last of some assignments counts for its key. -/
theorem lastValue_concat (key : Key) (assignments : List (Key × Value)) (entry : Key × Value) :
    lastValue key (assignments ++ [entry]) =
      if key = entry.1 then some entry.2 else lastValue key assignments := by
  unfold lastValue lookup
  rw [List.reverse_append, List.reverse_singleton, List.singleton_append]
  by_cases same : key = entry.1
  · simp [same]
  · simp [same, Ne.symm same]

/-- Assignments made in order leave every key with its last value. -/
theorem get?_ofList (assignments : List (Key × Value)) (key : Key) :
    (ofList assignments).get? key = lastValue key assignments := by
  induction assignments using List.reverseRecOn with
  | nil => rfl
  | append_singleton assignments entry ih =>
    unfold ofList at ih ⊢
    rw [List.foldl_append, List.foldl_cons, List.foldl_nil, get?_set, ih, lastValue_concat]

end Dict

end TacacsWeb.Library
