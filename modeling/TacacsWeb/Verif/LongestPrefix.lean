import TacacsWeb.Verif.ResolutionOrder

/-!
# Longest-prefix match

The loop of `resolve_device_for_ip` against its declarative meaning: the first row of the longest
network that holds the address. Rows that are malformed, of the other version or elsewhere never
count.
-/

namespace TacacsWeb.Verif

open TacacsWeb.Library.IpAddress TacacsWeb.Model

/-- The entry of a row parses as a network of the version of the address that contains it. -/
def HoldsIn (addr : Address) (device : Device) (network : AnyNetwork) : Prop :=
  ipNetwork device.ipOrCidr.toList = some network ∧ network.version = addr.version ∧
    network.contains addr = true

/-- The first row of the longest network that holds the address. -/
def FirstLongest (addr : Address) (devices : List Device) (device : Device) : Prop :=
  ∃ before after network, devices = before ++ device :: after ∧ HoldsIn addr device network ∧
    (∀ other ∈ devices, ∀ shorter, HoldsIn addr other shorter →
      shorter.prefixlen ≤ network.prefixlen) ∧
    ∀ other ∈ before, ∀ shorter, HoldsIn addr other shorter →
      shorter.prefixlen < network.prefixlen

/-- A row that cannot matter: malformed, of the other version, or not containing the address. -/
def Irrelevant (nasIp : String) (device : Device) : Prop :=
  ∀ addr, ipAddress nasIp.toList = some addr → ∀ network,
    ipNetwork device.ipOrCidr.toList = some network →
      network.version ≠ addr.version ∨ network.contains addr = false

/-- What the resolution is to mean. -/
structure LongestPrefixMatch (nasIp : String) : Prop where
  /-- A row is returned when it is the first of the longest network. -/
  some_iff : ∀ devices device, resolveDeviceForIp nasIp devices = some device ↔
    ∃ addr, ipAddress nasIp.toList = some addr ∧ FirstLongest addr devices device
  /-- Nothing is returned for a malformed address or one that no row holds. -/
  none_iff : ∀ devices, resolveDeviceForIp nasIp devices = none ↔
    ipAddress nasIp.toList = none ∨ ∃ addr, ipAddress nasIp.toList = some addr ∧
      ∀ device ∈ devices, ∀ network, ¬HoldsIn addr device network
  /-- Rows that cannot matter do not matter, wherever they stand. -/
  irrelevant : ∀ before rows after, (∀ row ∈ rows, Irrelevant nasIp row) →
    resolveDeviceForIp nasIp (before ++ rows ++ after) =
      resolveDeviceForIp nasIp (before ++ after)

section Match

variable {addr : Address}

/-- A row matches with the length of the network that it holds the address in. -/
theorem matchLength_iff_holds {device : Device} {length : Nat} :
    matchLength addr device = some length ↔
      ∃ network, HoldsIn addr device network ∧ network.prefixlen = length := by
  rw [matchLength_eq_some]
  constructor
  · intro found
    obtain ⟨network, parsed, member, same⟩ := found
    have version := AnyNetwork.version_of_contains member
    exact ⟨network, ⟨parsed, version.symm, member⟩, same⟩
  · intro found
    obtain ⟨network, ⟨parsed, -, member⟩, same⟩ := found
    exact ⟨network, parsed, member, same⟩

/-- A row that matches has one length. -/
theorem matchLength_of_holds {device : Device} {network : AnyNetwork}
    (holds : HoldsIn addr device network) : matchLength addr device = some network.prefixlen :=
  matchLength_iff_holds.mpr ⟨network, holds, rfl⟩

/-- The first longest row, by the lengths of the matches alone. -/
def FirstMaximum (addr : Address) (devices : List Device) (length : Nat) (device : Device) : Prop :=
  ∃ before after, devices = before ++ device :: after ∧ matchLength addr device = some length ∧
    (∀ other ∈ devices, ∀ shorter, matchLength addr other = some shorter → shorter ≤ length) ∧
    ∀ other ∈ before, ∀ shorter, matchLength addr other = some shorter → shorter < length

/-- The maximum over the matches of a list is attained first by some row. -/
theorem firstMaximum_of_argmax {devices : List Device} {length : Nat} {device : Device}
    (best : (devices.filterMap (matching addr)).argmax Prod.fst = some (length, device)) :
    FirstMaximum addr devices length device := by
  induction devices generalizing length device with
  | nil => cases best
  | cons row rows ih =>
    cases found : matchLength addr row with
    | none =>
      have head : matching addr row = none := by simp [matching, found]
      rw [List.filterMap_cons, head] at best
      obtain ⟨before, after, split, matched, longest, first⟩ := ih best
      refine ⟨row :: before, after, by rw [split]; rfl, matched, ?_, ?_⟩
      · intro other listed shorter same
        cases listed with
        | head =>
          rw [found] at same
          cases same
        | tail _ later => exact longest other later shorter same
      · intro other listed shorter same
        cases listed with
        | head =>
          rw [found] at same
          cases same
        | tail _ later => exact first other later shorter same
    | some here =>
      have head : matching addr row = some (here, row) := by simp [matching, found]
      rw [List.filterMap_cons, head] at best
      simp only [List.argmax_cons] at best
      cases rest : (rows.filterMap (matching addr)).argmax Prod.fst with
      | none =>
        rw [rest] at best
        cases best
        have nothing : ∀ other ∈ rows, matchLength addr other = none := by
          have empty := List.argmax_eq_none.mp rest
          intro other listed
          have unmatched := List.filterMap_eq_nil_iff.mp empty other listed
          simpa [matching] using unmatched
        refine ⟨[], rows, rfl, found, ?_, fun other listed => by cases listed⟩
        intro other listed shorter same
        cases listed with
        | head =>
          rw [found] at same
          cases same
          exact Nat.le_refl _
        | tail _ later =>
          rw [nothing other later] at same
          cases same
      | some champion =>
        obtain ⟨high, kept⟩ := champion
        obtain ⟨before, after, split, matched, longest, first⟩ := ih rest
        rw [rest] at best
        simp only at best
        by_cases higher : here < high
        · rw [if_pos higher] at best
          cases best
          refine ⟨row :: before, after, by rw [split]; rfl, matched, ?_, ?_⟩
          · intro other listed shorter same
            cases listed with
            | head =>
              rw [found] at same
              cases same
              omega
            | tail _ later => exact longest other later shorter same
          · intro other listed shorter same
            cases listed with
            | head =>
              rw [found] at same
              cases same
              exact higher
            | tail _ later => exact first other later shorter same
        · rw [if_neg higher] at best
          cases best
          refine ⟨[], rows, rfl, found, ?_, fun other listed => by cases listed⟩
          intro other listed shorter same
          cases listed with
          | head =>
            rw [found] at same
            cases same
            exact Nat.le_refl _
          | tail _ later =>
            have below := longest other later shorter same
            omega

/-- Nothing before the first maximum and nothing behind it takes its place. -/
theorem argmax_of_firstMaximum {devices : List Device} {length : Nat} {device : Device}
    (best : FirstMaximum addr devices length device) :
    (devices.filterMap (matching addr)).argmax Prod.fst = some (length, device) := by
  obtain ⟨before, after, split, matched, longest, first⟩ := best
  subst split
  induction before with
  | nil =>
    have head : matching addr device = some (length, device) := by simp [matching, matched]
    rw [List.nil_append, List.filterMap_cons, head]
    simp only [List.argmax_cons]
    cases rest : (after.filterMap (matching addr)).argmax Prod.fst with
    | none => rfl
    | some champion =>
      obtain ⟨listed, same⟩ := mem_matching.mp (List.argmax_mem rest)
      have below := longest champion.2 (List.mem_cons_of_mem _ listed) champion.1 same
      have notHigher : ¬length < champion.1 := by omega
      simp only [if_neg notHigher]
  | cons row before ih =>
    have later := ih
      (fun other listed => first other (List.mem_cons_of_mem _ listed))
      (fun other listed => longest other (List.mem_cons_of_mem _ listed))
    rw [List.cons_append, List.filterMap_cons]
    cases found : matchLength addr row with
    | none =>
      have head : matching addr row = none := by simp [matching, found]
      rw [head]
      exact later
    | some here =>
      have head : matching addr row = some (here, row) := by simp [matching, found]
      have below := first row List.mem_cons_self here found
      rw [head]
      simp only [List.argmax_cons, later, if_pos below]

/-- The two descriptions of the first longest row agree. -/
theorem firstLongest_iff {devices : List Device} {device : Device} :
    FirstLongest addr devices device ↔ ∃ length, FirstMaximum addr devices length device := by
  constructor
  · intro best
    obtain ⟨before, after, network, split, holds, longest, first⟩ := best
    refine ⟨network.prefixlen, before, after, split, matchLength_of_holds holds, ?_, ?_⟩
    · intro other listed shorter same
      obtain ⟨held, inside, length⟩ := matchLength_iff_holds.mp same
      rw [← length]
      exact longest other listed held inside
    · intro other listed shorter same
      obtain ⟨held, inside, length⟩ := matchLength_iff_holds.mp same
      rw [← length]
      exact first other listed held inside
  · intro best
    obtain ⟨length, before, after, split, matched, longest, first⟩ := best
    obtain ⟨network, holds, same⟩ := matchLength_iff_holds.mp matched
    refine ⟨before, after, network, split, holds, ?_, ?_⟩
    · intro other listed shorter inside
      rw [same]
      exact longest other listed _ (matchLength_of_holds inside)
    · intro other listed shorter inside
      rw [same]
      exact first other listed _ (matchLength_of_holds inside)

/-- A row that holds the address in no network does not match. -/
theorem matchLength_eq_none_iff {device : Device} :
    matchLength addr device = none ↔ ∀ network, ¬HoldsIn addr device network := by
  constructor
  · intro unmatched network holds
    rw [matchLength_of_holds holds] at unmatched
    cases unmatched
  · intro outside
    cases matched : matchLength addr device with
    | none => rfl
    | some length =>
      obtain ⟨network, holds, -⟩ := matchLength_iff_holds.mp matched
      exact absurd holds (outside network)

end Match

/-- Every address resolves to the first row of the longest network that holds it, to nothing where
there is none, and rows that are malformed, of the other version or elsewhere change nothing. -/
theorem resolveDeviceForIp_longestPrefixMatch (nasIp : String) : LongestPrefixMatch nasIp where
  some_iff devices device := by
    unfold resolveDeviceForIp
    cases parsed : ipAddress nasIp.toList with
    | none => simp
    | some addr =>
      simp only [foldl_resolveStep, Option.map_eq_some_iff, Prod.exists, exists_eq_right,
        Option.some.injEq, exists_eq_left', firstLongest_iff]
      constructor
      · intro best
        obtain ⟨length, best⟩ := best
        exact ⟨length, firstMaximum_of_argmax best⟩
      · intro best
        obtain ⟨length, best⟩ := best
        exact ⟨length, argmax_of_firstMaximum best⟩
  none_iff devices := by
    cases parsed : ipAddress nasIp.toList with
    | none => simp [resolveDeviceForIp, parsed]
    | some addr =>
      have found := @resolveDeviceForIp_isSome nasIp devices addr parsed
      rw [← Option.not_isSome_iff_eq_none, found]
      simp only [reduceCtorEq, false_or, Option.some.injEq, exists_eq_left',
        ← matchLength_eq_none_iff]
      simp
  irrelevant before rows after unrelated := by
    unfold resolveDeviceForIp
    cases parsed : ipAddress nasIp.toList with
    | none => rfl
    | some addr =>
      have skipped : rows.filterMap (matching addr) = [] := by
        rw [List.filterMap_eq_nil_iff]
        intro row listed
        have outside : ∀ network, ¬HoldsIn addr row network := by
          intro network holds
          have apart := unrelated row listed addr parsed network holds.1
          cases apart with
          | inl version => exact version holds.2.1
          | inr outside =>
            rw [holds.2.2] at outside
            cases outside
        simp [matching, matchLength_eq_none_iff.mpr outside]
      simp only [foldl_resolveStep, List.filterMap_append, skipped, List.append_nil]

end TacacsWeb.Verif
