import TacacsWeb.Library.IntText
import TacacsWeb.Library.Relabel
import TacacsWeb.Model.NasConfig

/-!
# The labels of the host blocks

A label that is taken is made distinct by the id of its device, and the renderer does not look
whether that one is taken. So two blocks get one label exactly when the name of a device sanitises
to a label that a device after it is renamed to.
-/

namespace TacacsWeb.Verif

open TacacsWeb.Library TacacsWeb.Library.Text TacacsWeb.Model

/-- The label that a device gets unless it is taken. -/
def safeLabel (device : Device) : String := safeBlockName device.name

/-- The label that it gets otherwise. -/
def labelWithId (device : Device) : String := safeBlockName device.name ++ "_" ++ toString device.id

/-- The devices that get a block, in the order of the blocks. -/
def renderedDevices (devices : List Device) : List Device :=
  (devices.insertionSort sortsBefore).filter isProvisioned

/-- The labels in the first lines of the blocks. -/
def hostLabels (devices : List Device) : List String := (hostBlocks devices).map HostBlock.name

/-- The labels are distinct, and each is a text of letters, digits and underscores. -/
def LabelsUnique (devices : List Device) : Prop :=
  (hostLabels devices).Nodup ∧
    ∀ label ∈ hostLabels devices, label ≠ "" ∧ ∀ char ∈ label.toList, isSafeNameChar char = true

/-! ## The loop -/

/-- The names seen are the labels of the blocks so far, and the loop relabels. -/
theorem renderStep_labels (devices : List Device) {blocks : List HostBlock} {seen : List String}
    (same : ∀ label, label ∈ seen ↔ label ∈ blocks.map HostBlock.name) :
    (devices.foldl renderStep (blocks, seen)).1.map HostBlock.name =
      (devices.filter isProvisioned).foldl
        (fun labels device => labels ++ [labelBeside safeLabel labelWithId labels device])
        (blocks.map HostBlock.name) := by
  induction devices generalizing blocks seen with
  | nil => rfl
  | cons device devices ih =>
    rw [List.foldl_cons]
    cases secret : provisionedSecret device with
    | none =>
      have skipped : renderStep (blocks, seen) device = (blocks, seen) := by
        simp only [renderStep, secret]
      have unprovisioned : ¬isProvisioned device = true := by simp [isProvisioned, secret]
      rw [skipped, List.filter_cons_of_neg unprovisioned]
      exact ih same
    | some value =>
      have label : (if safeBlockName device.name ∈ seen then labelWithId device
          else safeBlockName device.name) =
            labelBeside safeLabel labelWithId (blocks.map HostBlock.name) device := by
        unfold labelBeside
        simp only [same]
        rfl
      have added : renderStep (blocks, seen) device =
          (blocks ++ [⟨labelBeside safeLabel labelWithId (blocks.map HostBlock.name) device,
            device, value⟩],
            labelBeside safeLabel labelWithId (blocks.map HostBlock.name) device :: seen) := by
        rw [← label]
        simp only [renderStep, secret, labelWithId]
      have provisioned : isProvisioned device = true := by simp [isProvisioned, secret]
      rw [added, List.filter_cons_of_pos provisioned, List.foldl_cons, ih]
      · rw [List.map_append]
        rfl
      · intro name
        simp [same, or_comm]

/-- The labels are the names of the rendered devices, relabelled. -/
theorem hostLabels_eq (devices : List Device) :
    hostLabels devices = relabel safeLabel labelWithId (renderedDevices devices) := by
  unfold hostLabels hostBlocks renderedDevices relabel
  exact renderStep_labels (devices.insertionSort sortsBefore) fun label => by simp

/-! ## The labels with an id -/

/-- The digits of an id hold no underscore. -/
theorem underscore_notMem_toDigits (id : Nat) : '_' ∉ Nat.toDigits 10 id := by
  intro listed
  have digit := Nat.isDigit_of_mem_toDigits (by decide) (by decide) listed
  exact absurd digit (by decide)

/-- The digits of an id as characters. -/
theorem toList_labelWithId (device : Device) :
    (labelWithId device).toList =
      (safeBlockName device.name).toList ++ '_' :: Nat.toDigits 10 device.id := by
  have digits : (toString device.id).toList = Nat.toDigits 10 device.id := Nat.toList_repr
  simp only [labelWithId, String.toList_append, digits, List.append_assoc]
  rfl

/-- What stands after the last underscore tells the id. -/
theorem labelWithId_id {left right : Device} (same : labelWithId left = labelWithId right) :
    left.id = right.id := by
  have last (device : Device) : (labelWithId device).toList.reverse.takeWhile (· ≠ '_') =
      (Nat.toDigits 10 device.id).reverse := by
    have clean : ∀ char ∈ (Nat.toDigits 10 device.id).reverse, decide (char ≠ '_') = true := by
      intro char listed
      apply decide_eq_true
      rintro rfl
      exact underscore_notMem_toDigits device.id (List.mem_reverse.mp listed)
    rw [toList_labelWithId, List.reverse_append, List.reverse_cons, List.append_assoc,
      List.takeWhile_append_of_pos clean]
    simp
  have digits : Nat.toDigits 10 left.id = Nat.toDigits 10 right.id := by
    rw [← List.reverse_inj, ← last left, ← last right, same]
  have values := congrArg (fun digits => Nat.ofDigitChars 10 digits 0) digits
  simpa only [Nat.ofDigitChars_toDigits (by decide : 1 < 10) (by decide : 10 ≤ 10)] using values

/-- A label with an id has letters, digits and underscores only, like the one without. -/
theorem labelWithId_chars (device : Device) :
    labelWithId device ≠ "" ∧
      ∀ char ∈ (labelWithId device).toList, isSafeNameChar char = true := by
  have parts := toList_labelWithId device
  constructor
  · intro empty
    rw [empty] at parts
    exact absurd (congrArg List.length parts) (by simp)
  · intro char listed
    rw [parts, List.mem_append, List.mem_cons] at listed
    rcases listed with name | underscore | digit
    · exact (safeBlockName_chars device.name).2 char name
    · rw [underscore]
      decide
    · have bounds := Nat.isDigit_of_mem_toDigits (by decide) (by decide) digit
      simp only [Char.isDigit, Bool.and_eq_true, decide_eq_true_eq, ge_iff_le,
        UInt32.le_iff_toNat_le] at bounds
      have range : 48 ≤ char.toNat ∧ char.toNat ≤ 57 := bounds
      simp [isSafeNameChar, range.1, range.2]

/-- Every label is a text of letters, digits and underscores. -/
theorem hostLabels_chars (devices : List Device) :
    ∀ label ∈ hostLabels devices,
      label ≠ "" ∧ ∀ char ∈ label.toList, isSafeNameChar char = true := by
  intro label listed
  rw [hostLabels_eq] at listed
  rcases mem_relabel.mp listed with want | rename
  · obtain ⟨device, -, same⟩ := want
    rw [← same]
    exact safeBlockName_chars device.name
  · obtain ⟨before, device, later, -, -, same⟩ := rename
    rw [← same]
    exact labelWithId_chars device

/-! ## Distinct labels -/

/-- The name of a device sanitises to a label that a device after it is renamed to: one whose own
label is wanted by a device before it, or is what such a device was renamed to in turn. -/
def TakesLaterLabel (devices : List Device) : Prop :=
  Collides safeLabel labelWithId (renderedDevices devices)

/-- The labels are unique exactly when no device takes the label that a later one is renamed to. -/
theorem labelsUnique_iff {devices : List Device} (distinct : (devices.map Device.id).Nodup) :
    LabelsUnique devices ↔ ¬TakesLaterLabel devices := by
  have rows : ∀ device ∈ renderedDevices devices, device ∈ devices := by
    intro device rendered
    exact (List.mem_insertionSort sortsBefore).mp (List.mem_of_mem_filter rendered)
  have nodup : (renderedDevices devices).Nodup :=
    List.Nodup.filter _ ((List.perm_insertionSort sortsBefore devices).nodup_iff.mpr
      (List.Nodup.of_map _ distinct))
  have injective : ∀ left ∈ renderedDevices devices, ∀ right ∈ renderedDevices devices,
      labelWithId left = labelWithId right → left = right :=
    fun left inLeft right inRight same => List.inj_on_of_nodup_map distinct (rows left inLeft)
      (rows right inRight) (labelWithId_id same)
  unfold LabelsUnique TakesLaterLabel
  rw [and_iff_left (hostLabels_chars devices), hostLabels_eq]
  exact relabel_nodup_iff nodup injective

/-- A device with a secret. -/
def labelled (id : Nat) (name : String) : Device where
  id := id
  name := name
  ipOrCidr := "10.0.0.1"
  deviceGroupId := 1
  currentSecretEnc := some "secret"
  previousSecretEnc := none
  previousRetiredAt := none
  description := none

/-- The labels of two devices whose names sanitise to one. -/
theorem hostLabels_pair :
    hostLabels [labelled 5 "a b", labelled 7 "a-b"] = ["a_b", "a_b_7"] := by
  decide +kernel

/-- Two devices are told apart by an id. -/
theorem labelsUnique_pair : LabelsUnique [labelled 5 "a b", labelled 7 "a-b"] ∧
    ¬TakesLaterLabel [labelled 5 "a b", labelled 7 "a-b"] := by
  have unique : LabelsUnique [labelled 5 "a b", labelled 7 "a-b"] := by
    refine ⟨?_, hostLabels_chars _⟩
    rw [hostLabels_pair]
    decide
  exact ⟨unique, (labelsUnique_iff (by decide)).mp unique⟩

/-- The labels of the same two with a third between them. -/
theorem hostLabels_triple :
    hostLabels [labelled 5 "a b", labelled 7 "a-b", labelled 9 "a b 7"] =
      ["a_b", "a_b_7", "a_b_7"] := by
  decide +kernel

/-- A third device takes the label with the id, and two blocks have it. -/
theorem labels_not_unique :
    ¬ ∀ devices : List Device, (devices.map Device.id).Nodup → (devices.map Device.name).Nodup →
      LabelsUnique devices := by
  intro claimed
  have unique := (claimed [labelled 5 "a b", labelled 7 "a-b", labelled 9 "a b 7"] (by decide)
    (by decide)).1
  rw [hostLabels_triple] at unique
  exact absurd unique (by decide)

end TacacsWeb.Verif
