import Mathlib.Data.List.Nodup
import TacacsWeb.Model.LdapSync

/-!
# What the directory promises

Every account of a directory has a GUID and a login name of its own, where names that differ in
casing only are one name. The code lowers names in two places, by Python's function and by that of
the database, so names are apart when neither lowering of the one is a lowering of the other.
-/

namespace TacacsWeb.Verif

open TacacsWeb.Model

variable {fold : CaseFolding}

/-- Both lower-casings of a name. -/
def lowered (fold : CaseFolding) (name : String) : List String := [fold.sql name, fold.python name]

/-- The names of two records differ case-insensitively, whichever function lowers them. -/
def NamesApart (fold : CaseFolding) (left right : ADUserRecord) : Prop :=
  (lowered fold left.samAccountName).Disjoint (lowered fold right.samAccountName)

instance (fold : CaseFolding) : DecidableRel (NamesApart fold) := fun left right =>
  decidable_of_iff (∀ name ∈ lowered fold left.samAccountName,
    name ∉ lowered fold right.samAccountName) Iff.rfl

/-- The order of the two records does not matter. -/
theorem NamesApart.symm {one other : ADUserRecord} (apart : NamesApart fold one other) :
    NamesApart fold other one :=
  fun _ first second => apart second first

instance : Std.Symm (NamesApart fold) := ⟨fun _ _ apart => apart.symm⟩

/-- Accounts with GUIDs, no two with one GUID or with names that differ in casing only. -/
structure ToldApart (fold : CaseFolding) (records : List ADUserRecord) : Prop where
  /-- Every account has a GUID. -/
  guid : ∀ record ∈ records, ∃ guid, guid ≠ "" ∧ record.adObjectGuid = some guid
  /-- No two accounts share a GUID. -/
  distinctGuids : (records.map ADUserRecord.adObjectGuid).Nodup
  /-- No two accounts share a name in another casing. -/
  distinctNames : records.Pairwise (NamesApart fold)

/-- Accounts told apart by tests that can be run. -/
theorem toldApart_iff {records : List ADUserRecord} :
    ToldApart fold records ↔ (∀ record ∈ records, record.guid.isSome = true) ∧
      (records.map ADUserRecord.adObjectGuid).Nodup ∧ records.Pairwise (NamesApart fold) := by
  have truthy : ∀ record : ADUserRecord, record.guid.isSome = true ↔
      ∃ guid, guid ≠ "" ∧ record.adObjectGuid = some guid := by
    intro record
    rw [Option.isSome_iff_exists]
    simp [ADUserRecord.guid, and_comm]
  simp only [truthy]
  exact ⟨fun apart => ⟨apart.guid, apart.distinctGuids, apart.distinctNames⟩,
    fun ⟨guid, guids, names⟩ => ⟨guid, guids, names⟩⟩

instance (fold : CaseFolding) (records : List ADUserRecord) : Decidable (ToldApart fold records) :=
  decidable_of_iff _ toldApart_iff.symm

/-- The first records of a snapshot are told apart too. -/
theorem ToldApart.init {before later : List ADUserRecord}
    (accounts : ToldApart fold (before ++ later)) : ToldApart fold before where
  guid record listed := accounts.guid record (List.mem_append_left _ listed)
  distinctGuids := by
    have distinct := accounts.distinctGuids
    rw [List.map_append] at distinct
    exact (List.nodup_append.mp distinct).1
  distinctNames := (List.pairwise_append.mp accounts.distinctNames).1

/-- Records told apart stay so in another order. -/
theorem ToldApart.perm {records other : List ADUserRecord} (accounts : ToldApart fold records)
    (perm : records.Perm other) : ToldApart fold other where
  guid record listed := accounts.guid record (perm.mem_iff.mpr listed)
  distinctGuids := (perm.map _).nodup_iff.mp accounts.distinctGuids
  distinctNames := (perm.pairwise_iff fun apart => apart.symm).mp accounts.distinctNames

/-- What a snapshot of the directory gives: accounts told apart, and each with its groups once. -/
structure Snapshot (fold : CaseFolding) (records : List ADUserRecord) : Prop extends
    ToldApart fold records where
  /-- No account names a group twice. -/
  distinctSids : ∀ record ∈ records, (record.groups.map ADGroupRecord.sid).Nodup

instance (fold : CaseFolding) (records : List ADUserRecord) : Decidable (Snapshot fold records) :=
  decidable_of_iff (ToldApart fold records ∧
      ∀ record ∈ records, (record.groups.map ADGroupRecord.sid).Nodup)
    ⟨fun both => ⟨both.1, both.2⟩, fun snapshot => ⟨snapshot.toToldApart, snapshot.distinctSids⟩⟩

end TacacsWeb.Verif
