import TacacsWeb.Model.Devices
import TacacsWeb.Verif.HostsReader

/-!
# The address of a host block

The address of a device goes into the hosts file as it is. What is accepted as an address or a
network is one word there, but for a scope: behind a percent sign any text is accepted.
-/

namespace TacacsWeb.Verif

open TacacsWeb.Library TacacsWeb.Library.IpAddress TacacsWeb.Library.Lexer TacacsWeb.Model

/-- The address that a request gives, as its validator accepted it. -/
def givenAddress : DeviceRequest → Option String
  | .create payload => some payload.ipOrCidr
  | .update _ payload => payload.ipOrCidr
  | _ => none

/-- Whatever a line of a block puts behind `address = ` has the characters of an address, and is
one word. -/
def AddressStaysOneWord (block : HostBlock) : Prop :=
  ∀ text, "    address = " ++ text ∈ block.lines →
    (∀ char ∈ text.toList, isAddressChar char = true) ∧
      tokens hostsRules text.toList = some [.word text]

/-- The address line of a block is the only one. -/
theorem mem_lines_address {block : HostBlock} {text : String} :
    "    address = " ++ text ∈ block.lines ↔ text = block.address := by
  have start (other : String) (differs : ¬"    address = ".toList <+: other.toList) :
      "    address = " ++ text ≠ other := by
    intro same
    apply differs
    rw [← same, String.toList_append]
    exact List.prefix_append _ _
  have key (secret : String) : "    address = " ++ text ≠ keyLine secret := by
    apply start
    rw [keyLine, String.toList_append, String.toList_append]
    simp
  have label : "    address = " ++ text ≠ "host " ++ block.name ++ " \x7b" := by
    apply start
    simp
  have own : "    address = " ++ text = "    address = " ++ block.address ↔
      text = block.address := by
    rw [String.append_right_inj]
  unfold HostBlock.lines
  cases previous : block.device.previousSecretEnc with
  | none => simp [key, label, own, start]
  | some secret =>
    by_cases empty : secret = ""
    · simp [key, label, own, start, empty]
    · simp [key, label, own, start, empty]

/-- An accepted address is not empty, and is read as a network. -/
theorem accepted_givenAddress {request : DeviceRequest} {address : String}
    (given : givenAddress request = some address) :
    address ≠ "" ∧ (ipNetwork address.toList).isSome = true := by
  have nonempty (text : String) (long : 1 ≤ text.length) : text ≠ "" := by
    intro empty
    rw [empty] at long
    cases long
  cases request with
  | create payload =>
    cases given
    exact ⟨nonempty _ payload.ipOrCidrLength.1, payload.ipOrCidrValid⟩
  | update deviceId payload =>
    exact ⟨nonempty _ (payload.ipOrCidrLength address given).1,
      payload.ipOrCidrValid address given⟩
  | delete deviceId => cases given
  | rotateSecret deviceId payload => cases given
  | retirePrevious deviceId now => cases given

/-- For every address that a request is accepted with, what the block of a device with that address
has behind `address = ` is one word of characters of an address if and only if the address has no
percent sign, that is, no scope. -/
theorem addressStaysOneWord_iff {request : DeviceRequest} {address : String}
    (given : givenAddress request = some address) {block : HostBlock}
    (rendered : block.address = address) :
    AddressStaysOneWord block ↔ '%' ∉ address.toList := by
  obtain ⟨nonempty, accepted⟩ := accepted_givenAddress given
  constructor
  · intro plain scope
    have text := plain address (mem_lines_address.mpr rendered.symm)
    have percent := text.1 '%' scope
    revert percent
    decide
  · intro noScope text line
    rw [mem_lines_address.mp line, rendered]
    have chars := addressText_of_ipNetwork accepted noScope
    refine ⟨chars, ?_⟩
    have letters : ∀ char ∈ address.toList, hostsRules.isWord char = true :=
      fun char listed => isHostsWordChar_of_address (chars char listed)
    have word := Lexes.word (fun empty => nonempty (String.toList_eq_nil_iff.mp empty)) letters
      endsWord_nil lexes_nil
    rw [String.ofList_toList, List.append_nil] at word
    exact word.tokens_eq

/-- A new address of a device, with a prefix length. -/
def toDualStack : DeviceUpdate where
  name := some "core"
  ipOrCidr := some "2001:db8::/32"
  deviceGroupId := none
  description := some "uplink"
  currentSecret := some "secret"
  nameLength := by decide
  ipOrCidrLength := by decide
  ipOrCidrValid := by decide
  descriptionLength := by decide
  currentSecretLength := by decide

/-- The address of an edit. -/
theorem addressStaysOneWord_toDualStack :
    AddressStaysOneWord
        ⟨"core", ⟨1, "core", "2001:db8::/32", 1, some "secret", none, none, none⟩, "secret"⟩ ↔
      '%' ∉ "2001:db8::/32".toList :=
  addressStaysOneWord_iff (show givenAddress (.update 1 toDualStack) = _ from rfl) rfl

/-- A device whose scope closes its block and opens another. -/
def scopeAddress : DeviceCreate where
  name := "core"
  ipOrCidr := "fe80::1%\n\x7d\nhost any \x7b\n    address = ::/0"
  deviceGroupId := 1
  currentSecret := some "secret"
  description := some "uplink"
  nameLength := by decide
  ipOrCidrLength := by decide
  ipOrCidrValid := by decide +kernel
  currentSecretLength := by decide
  descriptionLength := by decide

/-- The scope is accepted, and the block of the device ends in it. -/
theorem scopeAddress_not_addressStaysOneWord :
    ¬ ∀ (request : DeviceRequest) (address : String) (devices : List Device),
      givenAddress request = some address →
        ∀ block ∈ hostBlocks devices, block.address = address → AddressStaysOneWord block := by
  intro claimed
  have plain := claimed (.create scopeAddress) scopeAddress.ipOrCidr
    [⟨1, "core", scopeAddress.ipOrCidr, 1, some "secret", none, none, none⟩] rfl
    ⟨"core", ⟨1, "core", scopeAddress.ipOrCidr, 1, some "secret", none, none, none⟩, "secret"⟩
    (by decide) rfl
  have text := (plain scopeAddress.ipOrCidr (mem_lines_address.mpr rfl)).1 '%' (by decide)
  revert text
  decide

end TacacsWeb.Verif
