import TacacsWeb.Library.IpAddress
import TacacsWeb.Model.Schema
import Mathlib.Data.List.MinMax

/-!
# Resolving a NAS address to a device

`app.authz.device_resolution`: the loop over the device rows that keeps the longest match
seen so far. The loop is the standard first maximum over the matching rows, which is where
its specification comes from; `LongestMatch` states that specification without an order of
the rows.
-/

namespace TacacsWeb.Model

open TacacsWeb.Library.IpAddress

/-- One iteration of the loop of `resolve_device_for_ip`. -/
def resolveStep (addr : Address) (best : Option (Nat × Device)) (device : Device) :
    Option (Nat × Device) :=
  match ipNetwork device.ipOrCidr.toList with
  | none => best
  | some net =>
    if addr.version ≠ net.version then best
    else if !net.contains addr then best
    else match best with
      | none => some (net.prefixlen, device)
      | some (longest, kept) =>
        if longest < net.prefixlen then some (net.prefixlen, device) else some (longest, kept)

/-- `resolve_device_for_ip`. -/
def resolveDeviceForIp (nasIp : String) (devices : List Device) : Option Device :=
  match ipAddress nasIp.toList with
  | none => none
  | some addr => (devices.foldl (resolveStep addr) none).map Prod.snd

/-- The prefix length with which an address or CIDR block matches an address. -/
def prefixMatch (addr : Address) (entry : String) : Option Nat :=
  (ipNetwork entry.toList).bind fun net =>
    if net.contains addr then some net.prefixlen else none

/-- The prefix length with which a device entry matches an address. -/
def matchLength (addr : Address) (device : Device) : Option Nat :=
  prefixMatch addr device.ipOrCidr

/-- A device with the length of its match, when it matches. -/
def matching (addr : Address) (device : Device) : Option (Nat × Device) :=
  (matchLength addr device).map fun length => (length, device)

/-- A row whose match is at least as long as that of every row. -/
def LongestMatch (addr : Address) (devices : List Device) (device : Device) : Prop :=
  device ∈ devices ∧ ∃ length, matchLength addr device = some length ∧
    ∀ other ∈ devices, ∀ shorter, matchLength addr other = some shorter → shorter ≤ length

/-- The loop body skips a row that does not match and compares one that does. -/
theorem resolveStep_eq (addr : Address) (best : Option (Nat × Device)) (device : Device) :
    resolveStep addr best device =
      match matching addr device with
      | none => best
      | some found => List.argAux (fun new old => old.1 < new.1) best found := by
  unfold resolveStep matching matchLength prefixMatch
  cases ipNetwork device.ipOrCidr.toList with
  | none => rfl
  | some net =>
    by_cases member : net.contains addr = true
    · have same := AnyNetwork.version_of_contains member
      cases best with
      | none => simp [member, same, List.argAux]
      | some kept => simp [member, same, List.argAux]
    · simp [member]

/-- The loop computes the first longest match. -/
theorem foldl_resolveStep (addr : Address) (devices : List Device) :
    devices.foldl (resolveStep addr) none =
      (devices.filterMap (matching addr)).argmax Prod.fst := by
  rw [List.argmax, List.foldl_filterMap]
  congr 1
  funext best device
  rw [resolveStep_eq]
  cases matching addr device <;> rfl

/-- A matching row is listed with its length. -/
theorem mem_matching {addr : Address} {devices : List Device} {length : Nat} {device : Device} :
    (length, device) ∈ devices.filterMap (matching addr) ↔
      device ∈ devices ∧ matchLength addr device = some length := by
  simp only [List.mem_filterMap, matching, Option.map_eq_some_iff, Prod.mk.injEq]
  constructor
  · rintro ⟨row, listed, found, same, rfl, rfl⟩
    exact ⟨listed, same⟩
  · rintro ⟨listed, same⟩
    exact ⟨device, listed, length, same, rfl, rfl⟩

/-- The resolved device is a longest match. -/
theorem resolveDeviceForIp_longest {nasIp : String} {devices : List Device} {device : Device}
    (resolved : resolveDeviceForIp nasIp devices = some device) :
    ∃ addr, ipAddress nasIp.toList = some addr ∧ LongestMatch addr devices device := by
  unfold resolveDeviceForIp at resolved
  cases parsed : ipAddress nasIp.toList with
  | none => simp [parsed] at resolved
  | some addr =>
    simp only [parsed, foldl_resolveStep, Option.map_eq_some_iff, Prod.exists,
      exists_eq_right] at resolved
    obtain ⟨length, best⟩ := resolved
    obtain ⟨listed, found⟩ := mem_matching.mp (List.argmax_mem best)
    refine ⟨addr, rfl, listed, length, found, fun other present shorter same => ?_⟩
    exact List.le_of_mem_argmax (mem_matching.mpr ⟨present, same⟩) best

/-- A resolved device is one of the devices. -/
theorem mem_of_resolveDeviceForIp {nasIp : String} {devices : List Device} {device : Device}
    (resolved : resolveDeviceForIp nasIp devices = some device) : device ∈ devices := by
  obtain ⟨addr, -, listed, -⟩ := resolveDeviceForIp_longest resolved
  exact listed

/-- Some row matches exactly when the resolution finds a device. -/
theorem resolveDeviceForIp_isSome {nasIp : String} {devices : List Device} {addr : Address}
    (parsed : ipAddress nasIp.toList = some addr) :
    (resolveDeviceForIp nasIp devices).isSome = true ↔
      ∃ device ∈ devices, (matchLength addr device).isSome = true := by
  simp only [resolveDeviceForIp, parsed, foldl_resolveStep, Option.isSome_map]
  rw [← not_iff_not, Bool.not_eq_true, Option.isSome_eq_false_iff, Option.isNone_iff_eq_none,
    List.argmax_eq_none, List.filterMap_eq_nil_iff]
  simp [matching]

/-- A row that matches strictly longer than every other row is the one resolved. -/
theorem resolveDeviceForIp_of_strict {nasIp : String} {devices : List Device} {addr : Address}
    {device : Device} {length : Nat} (parsed : ipAddress nasIp.toList = some addr)
    (listed : device ∈ devices) (found : matchLength addr device = some length)
    (strict : ∀ other ∈ devices, other ≠ device → ∀ shorter,
      matchLength addr other = some shorter → shorter < length) :
    resolveDeviceForIp nasIp devices = some device := by
  have some_match : (resolveDeviceForIp nasIp devices).isSome = true :=
    (resolveDeviceForIp_isSome parsed).mpr ⟨device, listed, by simp [found]⟩
  obtain ⟨winner, resolved⟩ := Option.isSome_iff_exists.mp some_match
  obtain ⟨_, again, present, longest, matched, bound⟩ := resolveDeviceForIp_longest resolved
  obtain rfl := Option.some.inj (parsed.symm.trans again)
  by_cases same : winner = device
  · rw [resolved, same]
  · have above := bound device listed length found
    have below := strict winner present same longest matched
    omega

/-- The row that comes first wins among rows of its match length or shorter. -/
theorem resolveDeviceForIp_of_first {nasIp : String} {devices : List Device} {addr : Address}
    {device winner : Device} {length : Nat} (parsed : ipAddress nasIp.toList = some addr)
    (found : matchLength addr device = some length)
    (resolved : resolveDeviceForIp nasIp (device :: devices) = some winner) :
    winner = device ∨ ∃ longer, matchLength addr winner = some longer ∧ length < longer := by
  simp only [resolveDeviceForIp, parsed, foldl_resolveStep] at resolved
  have head : matching addr device = some (length, device) := by simp [matching, found]
  rw [List.filterMap_cons, head, List.argmax_cons] at resolved
  cases rest : (devices.filterMap (matching addr)).argmax Prod.fst with
  | none =>
    simp only [rest, Option.map_some, Option.some.injEq] at resolved
    exact .inl resolved.symm
  | some best =>
    simp only [rest] at resolved
    split at resolved
    · rename_i longer
      obtain rfl := Option.some.inj resolved
      exact .inr ⟨best.1, (mem_matching.mp (List.argmax_mem rest)).2, longer⟩
    · exact .inl (Option.some.inj resolved).symm

end TacacsWeb.Model
