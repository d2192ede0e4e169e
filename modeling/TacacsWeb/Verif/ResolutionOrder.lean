import TacacsWeb.Library.Run
import TacacsWeb.Model.DeviceResolution
import TacacsWeb.Model.DeviceEdits

/-!
# Resolution and the order of the rows

`ip_or_cidr` is unique as a text, and one network has many texts. Where two rows denote the
network that matches an address longest, the row that comes first is taken, and no query asks
for an order.
-/

namespace TacacsWeb.Verif

open TacacsWeb.Library TacacsWeb.Library.IpAddress TacacsWeb.Model

/-- Every order of the rows resolves an address to the same device. -/
def OrderIndependent (nasIp : String) (devices : List Device) : Prop :=
  ∀ rows, rows.Perm devices → resolveDeviceForIp nasIp rows = resolveDeviceForIp nasIp devices

/-- Two rows denote one network that holds the address, and no row matches it longer. -/
def SharedNetwork (addr : Address) (devices : List Device) : Prop :=
  ∃ network : AnyNetwork, network.contains addr = true ∧
    (∃ first ∈ devices, ∃ second ∈ devices, first ≠ second ∧
      ipNetwork first.ipOrCidr.toList = some network ∧
      ipNetwork second.ipOrCidr.toList = some network) ∧
    ∀ device ∈ devices, ∀ other, ipNetwork device.ipOrCidr.toList = some other →
      other.contains addr = true → other.prefixlen ≤ network.prefixlen

/-- A row matches with the length of its network when that holds the address. -/
theorem matchLength_eq_some {addr : Address} {device : Device} {length : Nat} :
    matchLength addr device = some length ↔
      ∃ network, ipNetwork device.ipOrCidr.toList = some network ∧
        network.contains addr = true ∧ network.prefixlen = length := by
  simp only [matchLength, prefixMatch, Option.bind_eq_some_iff]
  constructor
  · rintro ⟨network, parsed, found⟩
    split at found
    · next member => exact ⟨network, parsed, member, Option.some.inj found⟩
    · cases found
  · rintro ⟨network, parsed, member, rfl⟩
    exact ⟨network, parsed, if_pos member⟩

/-- Rows share the longest matching network when they are longest matches and differ. -/
theorem sharedNetwork_iff {addr : Address} {devices : List Device} :
    SharedNetwork addr devices ↔
      ∃ first second, first ≠ second ∧ LongestMatch addr devices first ∧
        LongestMatch addr devices second := by
  constructor
  · rintro ⟨network, member, ⟨first, listed, second, present, different, parsed, again⟩, longest⟩
    have bound : ∀ other ∈ devices, ∀ shorter, matchLength addr other = some shorter →
        shorter ≤ network.prefixlen := by
      intro other here shorter found
      obtain ⟨read, parsed, inside, rfl⟩ := matchLength_eq_some.mp found
      exact longest other here read parsed inside
    exact ⟨first, second, different,
      ⟨listed, _, matchLength_eq_some.mpr ⟨network, parsed, member, rfl⟩, bound⟩,
      ⟨present, _, matchLength_eq_some.mpr ⟨network, again, member, rfl⟩, bound⟩⟩
  · rintro ⟨first, second, different, ⟨listed, length, found, longest⟩,
      ⟨present, width, matched, widest⟩⟩
    have same : length = width :=
      Nat.le_antisymm (widest first listed length found) (longest second present width matched)
    obtain ⟨network, parsed, member, rfl⟩ := matchLength_eq_some.mp found
    obtain ⟨other, again, inside, equal⟩ := matchLength_eq_some.mp matched
    -- One length and a common address make them one network.
    obtain rfl := AnyNetwork.eq_of_contains member inside (same.trans equal.symm)
    refine ⟨network, member, ⟨first, listed, second, present, different, parsed, again⟩, ?_⟩
    intro device here read parsed inside
    exact longest device here _ (matchLength_eq_some.mpr ⟨read, parsed, inside, rfl⟩)

/-- The rows of a longest match do not depend on their order. -/
theorem longestMatch_perm {addr : Address} {rows devices : List Device} {device : Device}
    (permuted : rows.Perm devices) (longest : LongestMatch addr rows device) :
    LongestMatch addr devices device := by
  obtain ⟨listed, length, found, bound⟩ := longest
  exact ⟨permuted.mem_iff.mp listed, length, found,
    fun other present => bound other (permuted.mem_iff.mpr present)⟩

/-- A longest match is resolved when its row comes first. -/
theorem resolveDeviceForIp_first {nasIp : String} {addr : Address} {devices rest : List Device}
    {device : Device} (parsed : ipAddress nasIp.toList = some addr)
    (longest : LongestMatch addr devices device) (permuted : (device :: rest).Perm devices) :
    resolveDeviceForIp nasIp (device :: rest) = some device := by
  obtain ⟨listed, length, found, bound⟩ := longest
  have matched : (resolveDeviceForIp nasIp (device :: rest)).isSome = true :=
    (resolveDeviceForIp_isSome parsed).mpr ⟨device, List.mem_cons_self, by rw [found]; rfl⟩
  obtain ⟨winner, resolved⟩ := Option.isSome_iff_exists.mp matched
  rcases resolveDeviceForIp_of_first parsed found resolved with rfl | ⟨longer, more, above⟩
  · exact resolved
  · obtain ⟨_, again, present, -⟩ := resolveDeviceForIp_longest resolved
    have below := bound winner (permuted.mem_iff.mp present) longer more
    omega

/-- An address resolves to the same device in every order of the rows if and only if no two rows
denote the network that matches it longest. -/
theorem orderIndependent_iff (nasIp : String) (devices : List Device) :
    OrderIndependent nasIp devices ↔
      ∀ addr, ipAddress nasIp.toList = some addr → ¬SharedNetwork addr devices := by
  constructor
  · intro independent addr parsed shared
    obtain ⟨first, second, different, longest, widest⟩ := sharedNetwork_iff.mp shared
    have front : ∀ device, LongestMatch addr devices device →
        resolveDeviceForIp nasIp devices = some device := by
      intro device best
      have permuted := (List.perm_cons_erase best.1).symm
      rw [← independent _ permuted]
      exact resolveDeviceForIp_first parsed best permuted
    have same := (front first longest).symm.trans (front second widest)
    exact different (Option.some.inj same)
  · intro unshared rows permuted
    cases parsed : ipAddress nasIp.toList with
    | none => simp only [resolveDeviceForIp, parsed]
    | some addr =>
      have unique := sharedNetwork_iff.not.mp (unshared addr parsed)
      cases resolved : resolveDeviceForIp nasIp devices with
      | none =>
        have unmatched : ¬(resolveDeviceForIp nasIp rows).isSome = true := by
          intro found
          obtain ⟨device, listed, matched⟩ := (resolveDeviceForIp_isSome parsed).mp found
          have also : (resolveDeviceForIp nasIp devices).isSome = true :=
            (resolveDeviceForIp_isSome parsed).mpr
              ⟨device, permuted.mem_iff.mp listed, matched⟩
          rw [resolved] at also
          cases also
        simpa using unmatched
      | some device =>
        obtain ⟨_, again, best⟩ := resolveDeviceForIp_longest resolved
        obtain rfl := Option.some.inj (parsed.symm.trans again)
        have matched : (resolveDeviceForIp nasIp rows).isSome = true := by
          obtain ⟨listed, length, found, -⟩ := best
          exact (resolveDeviceForIp_isSome parsed).mpr
            ⟨device, permuted.mem_iff.mpr listed, by rw [found]; rfl⟩
        obtain ⟨winner, other⟩ := Option.isSome_iff_exists.mp matched
        obtain ⟨_, once, good⟩ := resolveDeviceForIp_longest other
        obtain rfl := Option.some.inj (parsed.symm.trans once)
        have same : winner = device := by
          by_contra different
          exact unique ⟨winner, device, different, longestMatch_perm permuted good, best⟩
        rw [other, same]

/-- A host address, in one spelling. -/
def hostForm : DeviceCreate where
  name := "sw1"
  ipOrCidr := "10.0.0.1"
  deviceGroupId := 1
  currentSecret := some "k1"
  description := none
  nameLength := by decide
  ipOrCidrLength := by decide
  ipOrCidrValid := by decide
  currentSecretLength := by decide
  descriptionLength := by decide

/-- The host address of the other device, as a block. -/
def blockForm : DeviceCreate where
  name := "sw2"
  ipOrCidr := "10.0.0.1/32"
  deviceGroupId := 1
  currentSecret := some "k2"
  description := none
  nameLength := by decide
  ipOrCidrLength := by decide
  ipOrCidrValid := by decide
  currentSecretLength := by decide
  descriptionLength := by decide

/-- Two devices may be created with one address in two spellings, and then the order of the rows
decides which of them the address belongs to. -/
theorem hostForm_blockForm_not_orderIndependent :
    ¬ ∀ (printable : Char → Bool) (groups : List DeviceGroup) (devices : List Device)
      (nasIp : String), ReachableDevices printable groups devices →
      OrderIndependent nasIp devices := by
  intro claimed
  let host : Device := ⟨1, "sw1", "10.0.0.1", 1, some "k1", none, none, none⟩
  let block : Device := ⟨2, "sw2", "10.0.0.1/32", 1, some "k2", none, none, none⟩
  have independent := claimed (fun _ => true) [⟨1, "core", none⟩] [host, block] "10.0.0.1"
    ⟨[.create hostForm, .create blockForm], ⟨_, [host, block], 3⟩, by simp [writesAddress], rfl,
      rfl⟩
  have same := independent [block, host] (List.Perm.swap host block [])
  revert same
  decide +kernel

end TacacsWeb.Verif
