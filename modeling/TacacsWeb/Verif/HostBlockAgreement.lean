import TacacsWeb.Model.DeviceResolution
import TacacsWeb.Model.NasConfig

/-!
# The device of the key and the device of the decision

The daemon admits a session with the key of the longest matching host block; the backend
decides it for the longest matching device. The renderer leaves out devices without a
secret and the resolution does not, so the two agree exactly when a device with a secret
matches longer than every other device.
-/

namespace TacacsWeb.Verif

open TacacsWeb.Library TacacsWeb.Library.IpAddress TacacsWeb.Model

/-- The daemon matches an address to a block of the longest matching prefix. -/
def SelectsBlock (addr : Address) (blocks : List HostBlock) (block : HostBlock) : Prop :=
  block ∈ blocks ∧ ∃ length, prefixMatch addr block.address = some length ∧
    ∀ other ∈ blocks, ∀ shorter, prefixMatch addr other.address = some shorter → shorter ≤ length

/-- Whatever order the two queries return the rows in, the block that the daemon selects was
made from the device that the address resolves to. -/
def BlockDecides (nasIp : String) (addr : Address) (devices : List Device) : Prop :=
  ∀ (renderOrder resolveOrder : RowOrder Device) (block : HostBlock),
    SelectsBlock addr (hostBlocks (renderOrder.rows devices)) block →
      resolveDeviceForIp nasIp (resolveOrder.rows devices) = some block.device

/-- A device with a secret matches longer than every other device. -/
def StrictlyLongestProvisioned (addr : Address) (devices : List Device) : Prop :=
  ∃ device ∈ devices, isProvisioned device = true ∧
    ∃ length, matchLength addr device = some length ∧
      ∀ other ∈ devices, other ≠ device →
        ∀ shorter, matchLength addr other = some shorter → shorter < length

/-- Some row of a list that a measure is defined on has the largest measure. -/
theorem exists_longest {Row : Type} (measure : Row → Option Nat) {rows : List Row}
    (some_row : ∃ row ∈ rows, (measure row).isSome = true) :
    ∃ row ∈ rows, ∃ length, measure row = some length ∧
      ∀ other ∈ rows, ∀ shorter, measure other = some shorter → shorter ≤ length := by
  obtain ⟨row, listed, defined⟩ := some_row
  have member : row ∈ rows.filter fun row => (measure row).isSome := by
    simp [listed, defined]
  cases best : (rows.filter fun row => (measure row).isSome).argmax fun row =>
      (measure row).getD 0 with
  | none =>
    rw [List.argmax_eq_none] at best
    rw [best] at member
    cases member
  | some longest =>
    obtain ⟨present, found⟩ := List.mem_filter.mp (List.argmax_mem best)
    obtain ⟨length, measured⟩ := Option.isSome_iff_exists.mp found
    refine ⟨longest, present, length, measured, fun other inRows shorter same => ?_⟩
    have bound := List.le_of_mem_argmax (a := other) (by simp [inRows, same]) best
    simpa [same, measured] using bound

/-- The order that returns one row of a table first. -/
def rowFirst (devices : List Device) (first : Device) (listed : first ∈ devices) :
    RowOrder Device where
  rows selected := if selected = devices then first :: devices.erase first else selected
  perm selected := by
    split
    · rename_i same
      rw [same]
      exact (List.perm_cons_erase listed).symm
    · exact .refl _

/-- A device with a secret that matches longest is the one of every selected block. -/
theorem blockDecides_of_strict {nasIp : String} {addr : Address} {devices : List Device}
    (parsed : ipAddress nasIp.toList = some addr)
    (strict : StrictlyLongestProvisioned addr devices) : BlockDecides nasIp addr devices := by
  obtain ⟨device, listed, provisioned, length, matched, shorter⟩ := strict
  intro renderOrder resolveOrder block selected
  obtain ⟨present, found, measured, longest⟩ := selected
  have same : block.device = device := by
    obtain ⟨own, inBlocks, ofDevice⟩ := mem_hostBlocks_device.mpr
      ⟨(renderOrder.perm devices).mem_iff.mpr listed, provisioned⟩
    have above := longest own inBlocks length (by rw [HostBlock.address, ofDevice]; exact matched)
    by_contra different
    have inTable := (mem_hostBlocks_device.mp ⟨block, present, rfl⟩).1
    have below := shorter block.device ((renderOrder.perm devices).mem_iff.mp inTable) different
      found measured
    omega
  rw [same]
  exact resolveDeviceForIp_of_strict parsed ((resolveOrder.perm devices).mem_iff.mpr listed) matched
    fun other present different =>
      shorter other ((resolveOrder.perm devices).mem_iff.mp present) different

/-- For an address that matches a block, the selected block decides for its own device
exactly when a device with a secret matches longer than every other device. -/
theorem blockDecides_iff {nasIp : String} {addr : Address} {devices : List Device}
    (parsed : ipAddress nasIp.toList = some addr)
    (admitted : ∃ block ∈ hostBlocks devices, (prefixMatch addr block.address).isSome = true) :
    BlockDecides nasIp addr devices ↔ StrictlyLongestProvisioned addr devices := by
  refine ⟨fun decides => ?_, blockDecides_of_strict parsed⟩
  obtain ⟨block, present, length, matched, longest⟩ := exists_longest _ admitted
  have resolves : ∀ order : RowOrder Device,
      resolveDeviceForIp nasIp (order.rows devices) = some block.device :=
    fun order => decides (.asStored _) order block ⟨present, length, matched, longest⟩
  obtain ⟨listed, provisioned⟩ := mem_hostBlocks_device.mp ⟨block, present, rfl⟩
  refine ⟨block.device, listed, provisioned, length, matched,
    fun other inTable different shorter measured => ?_⟩
  by_contra notShorter
  -- A row that matches no shorter is resolved to when the query returns it first.
  have first := resolves (rowFirst devices other inTable)
  simp only [rowFirst, ↓reduceIte] at first
  rcases resolveDeviceForIp_of_first parsed measured first with same | ⟨longer, found, above⟩
  · exact different same.symm
  · have same := matched.symm.trans found
    have equal := Option.some.inj same
    omega

/-- A network with a secret and a host in it, with the secret given. -/
def hostInNetwork (secret : Option String) : List Device :=
  [⟨1, "net", "10.0.0.0/24", 1, some "k", none, none, none⟩,
    ⟨2, "core", "10.0.0.5", 2, secret, none, none, none⟩]

/-- The equivalence at a host with a secret. -/
theorem blockDecides_iff_provisioned :
    BlockDecides "10.0.0.5" (.v4 0x0a000005#32) (hostInNetwork (some "s")) ↔
      StrictlyLongestProvisioned (.v4 0x0a000005#32) (hostInNetwork (some "s")) :=
  blockDecides_iff (by decide)
    ⟨⟨"core", ⟨2, "core", "10.0.0.5", 2, some "s", none, none, none⟩, "s"⟩, by decide, by decide⟩

/-- A host without a secret matches longest: the session is admitted with the key of the
network and decided for the host. -/
theorem unprovisioned_host_misdecides :
    ipAddress "10.0.0.5".toList = some (.v4 0x0a000005#32) ∧
      (∃ block ∈ hostBlocks (hostInNetwork none),
        (prefixMatch (.v4 0x0a000005#32) block.address).isSome = true) ∧
      ¬ BlockDecides "10.0.0.5" (.v4 0x0a000005#32) (hostInNetwork none) := by
  have blocks : hostBlocks (hostInNetwork none) =
      [⟨"net", ⟨1, "net", "10.0.0.0/24", 1, some "k", none, none, none⟩, "k"⟩] := by decide
  have matched : prefixMatch (.v4 0x0a000005#32) "10.0.0.0/24" = some 24 := by decide
  have selected : SelectsBlock (.v4 0x0a000005#32) (hostBlocks (hostInNetwork none))
      ⟨"net", ⟨1, "net", "10.0.0.0/24", 1, some "k", none, none, none⟩, "k"⟩ := by
    rw [blocks]
    refine ⟨List.mem_singleton_self _, 24, matched, fun other listed shorter measured => ?_⟩
    obtain rfl := List.mem_singleton.mp listed
    exact (Option.some.inj (matched.symm.trans measured)).ge
  refine ⟨by decide, ⟨_, selected.1, by rw [HostBlock.address, matched]; rfl⟩, fun decides => ?_⟩
  have wrong := decides (.asStored _) (.asStored _) _ selected
  have resolved : resolveDeviceForIp "10.0.0.5" (hostInNetwork none) =
      some ⟨2, "core", "10.0.0.5", 2, none, none, none, none⟩ := by decide
  exact absurd (resolved.symm.trans wrong) (by decide)

end TacacsWeb.Verif
