import TacacsWeb.Library.Text
import Mathlib.Data.List.FinRange
import Mathlib.Data.List.TakeWhile

/-!
# Internet addresses and networks

The part of Python's `ipaddress` module that reads an address or a network from text and
tests membership. An address is a word of its version's width, and a network carries the
proof that its host bits are clear, so two networks of one length that hold a common
address are the same network. Texts that the module rejects with a `ValueError` read as
`none`; a scope id is checked as the module checks it and then dropped, because membership
never looks at it.
-/

namespace TacacsWeb.Library.IpAddress

/-! ## Words and masks -/

/-- `_ip_int_from_prefix`: the netmask with `prefixlen` leading ones. -/
def netmask (width prefixlen : Nat) : BitVec width :=
  BitVec.allOnes width ^^^ (BitVec.allOnes width >>> prefixlen)

/-- Masking twice is masking once. -/
theorem and_netmask_idem {width prefixlen : Nat} (word : BitVec width) :
    word &&& netmask width prefixlen &&& netmask width prefixlen =
      word &&& netmask width prefixlen := by
  rw [BitVec.and_assoc, BitVec.and_self]

/-- A network of one width: a prefix length and an address whose host bits are clear. -/
structure Network (width : Nat) where
  /-- The network address. -/
  address : BitVec width
  /-- The number of leading bits that the members share. -/
  prefixlen : Fin (width + 1)
  /-- Bits past the prefix are zero. -/
  clear : address &&& netmask width prefixlen = address
deriving DecidableEq

namespace Network

variable {width : Nat}

/-- The network of a word that may have host bits set (`strict=False`). -/
def ofHost (word : BitVec width) (prefixlen : Fin (width + 1)) : Network width :=
  ⟨word &&& netmask width prefixlen, prefixlen, and_netmask_idem word⟩

/-- `__contains__` for an address of the same version. -/
def contains (network : Network width) (word : BitVec width) : Bool :=
  word &&& netmask width network.prefixlen == network.address

/-- Two networks of one length that hold a common address are equal. -/
theorem eq_of_contains {first second : Network width} {word : BitVec width}
    (inFirst : first.contains word = true) (inSecond : second.contains word = true)
    (same : first.prefixlen = second.prefixlen) : first = second := by
  obtain ⟨left, length, leftClear⟩ := first
  obtain ⟨right, _, rightClear⟩ := second
  obtain rfl : length = _ := same
  have leftEq := beq_iff_eq.mp inFirst
  have rightEq := beq_iff_eq.mp inSecond
  simp only at leftEq rightEq
  obtain rfl := leftEq.symm.trans rightEq
  rfl

end Network

/-! ## Decimal and hexadecimal fields -/

/-- The value of a run of decimal digits. -/
def decimal (digits : List Char) : Nat :=
  digits.foldl (fun total digit => 10 * total + (digit.toNat - '0'.toNat)) 0

/-- `text.isascii() and text.isdigit()`. -/
def isDecimal (text : List Char) : Bool := !text.isEmpty && text.all Char.isDigit

/-- `_parse_octet`: one to three digits, no leading zero, at most 255. -/
def parseOctet (text : List Char) : Option (BitVec 8) :=
  if !isDecimal text then none
  else if 3 < text.length then none
  else if text ≠ ['0'] ∧ text.head? = some '0' then none
  else if 255 < decimal text then none
  else some (BitVec.ofNat 8 (decimal text))

/-- `IPv4Address`: four octets separated by dots. -/
def ipv4Address (text : List Char) : Option (BitVec 32) :=
  match text.splitOn '.' with
  | [first, second, third, fourth] => do
    let first ← parseOctet first
    let second ← parseOctet second
    let third ← parseOctet third
    let fourth ← parseOctet fourth
    some (first ++ second ++ third ++ fourth)
  | _ => none

/-- The value of a hexadecimal digit. -/
def hexDigit (digit : Char) : Option Nat :=
  if digit.isDigit then some (digit.toNat - '0'.toNat)
  else if 'a' ≤ digit ∧ digit ≤ 'f' then some (digit.toNat - 'a'.toNat + 10)
  else if 'A' ≤ digit ∧ digit ≤ 'F' then some (digit.toNat - 'A'.toNat + 10)
  else none

/-- A hexadecimal digit is a letter or a digit. -/
theorem isAlphanum_of_hexDigit {char : Char} (digit : (hexDigit char).isSome = true) :
    char.isAlphanum = true := by
  unfold hexDigit at digit
  apply Text.isAlphanum_iff.mpr
  split at digit
  · rename_i decimal
    have alphanum : char.isAlphanum = true := by simp [Char.isAlphanum, decimal]
    exact Text.isAlphanum_iff.mp alphanum
  split at digit
  · rename_i lower
    have first : 97 ≤ char.toNat := lower.1
    have last : char.toNat ≤ 102 := lower.2
    omega
  split at digit
  · rename_i upper
    have first : 65 ≤ char.toNat := upper.1
    have last : char.toNat ≤ 70 := upper.2
    omega
  · cases digit

/-- A hexadecimal digit, a dot, a colon or a slash. -/
def isAddressChar (char : Char) : Bool :=
  (hexDigit char).isSome || char = '.' || char = ':' || char = '/'

/-- `_parse_hextet`: one to four hexadecimal digits. -/
def parseHextet (text : List Char) : Option (BitVec 16) := do
  let digits ← text.mapM hexDigit
  if digits = [] ∨ 4 < digits.length then none
  else some (BitVec.ofNat 16 (digits.foldl (fun total digit => 16 * total + digit) 0))

/-! ## Version 6 addresses -/

/-- A dotted last part stands for two hextets. -/
def expandIpv4Suffix (parts : List (List Char)) : Option (List (List Char)) :=
  match parts.getLast? with
  | none => some parts
  | some last =>
    if '.' ∈ last then do
      let suffix ← ipv4Address last
      some (parts.dropLast ++ [Nat.toDigits 16 (suffix >>> 16).toNat,
        Nat.toDigits 16 (suffix &&& 0xFFFF#32).toNat])
    else some parts

/-- The positions of the empty parts that are neither first nor last. -/
def innerEmpty (parts : List (List Char)) : List Nat :=
  (List.range parts.length).filter fun i =>
    0 < i ∧ i + 1 < parts.length ∧ parts[i]? = some []

/-- Append one hextet to the address read so far. -/
def shiftIn (address : BitVec 128) (hextet : BitVec 16) : BitVec 128 :=
  address <<< 16 ||| hextet.setWidth 128

/-- The parts before a `::`; a leading empty part must be the colon of the `::` itself. -/
def partsHigh (parts : List (List Char)) : Option (List (List Char)) :=
  if parts.head? = some [] then (if parts.length = 1 then some [] else none) else some parts

/-- The parts after a `::`; a trailing empty part must be the colon of the `::` itself. -/
def partsLow (parts : List (List Char)) : Option (List (List Char)) :=
  if parts.getLast? = some [] then (if parts.length = 1 then some [] else none) else some parts

/-- `_ip_int_from_string` of version 6. -/
def ipv6FromString (text : List Char) : Option (BitVec 128) :=
  if text = [] ∨ (text.splitOn ':').length < 3 then none
  else do
    let parts ← expandIpv4Suffix (text.splitOn ':')
    if 9 < parts.length then none
    else match innerEmpty parts with
      | [] =>
        if parts.length ≠ 8 then none
        else do
          let hextets ← parts.mapM parseHextet
          some (hextets.foldl shiftIn 0)
      | [skip] => do
        let high ← partsHigh (parts.take skip)
        let low ← partsLow (parts.drop (skip + 1))
        if 8 ≤ high.length + low.length then none
        else do
          let high ← high.mapM parseHextet
          let low ← low.mapM parseHextet
          some (low.foldl shiftIn (high.foldl shiftIn 0 <<< (16 * (8 - (high.length + low.length)))))
      | _ => none

/-- `_split_scope_id`: what follows the first percent sign must be nonempty and hold no
further one. -/
def splitScopeId (text : List Char) : Option (List Char) :=
  match text.dropWhile (· ≠ '%') with
  | [] => some text
  | _ :: scope => if scope = [] ∨ '%' ∈ scope then none else some (text.takeWhile (· ≠ '%'))

/-- `IPv6Address`. -/
def ipv6Address (text : List Char) : Option (BitVec 128) :=
  if '/' ∈ text then none else (splitScopeId text).bind ipv6FromString

/-! ## Addresses and networks of either version -/

/-- An address of either version. -/
inductive Address where
  /-- A version 4 address. -/
  | v4 (word : BitVec 32)
  /-- A version 6 address. -/
  | v6 (word : BitVec 128)
deriving DecidableEq

/-- `ip_address`: version 4 is tried first. -/
def ipAddress (text : List Char) : Option Address :=
  match ipv4Address text with
  | some word => some (.v4 word)
  | none => (ipv6Address text).map .v6

/-- The version of an address. -/
def Address.version : Address → Nat
  | v4 _ => 4
  | v6 _ => 6

/-- A network of either version. -/
inductive AnyNetwork where
  /-- A version 4 network. -/
  | v4 (network : Network 32)
  /-- A version 6 network. -/
  | v6 (network : Network 128)
deriving DecidableEq

/-- `_prefix_from_prefix_string`: a prefix length in digits, at most the width. -/
def prefixFromPrefixString (width : Nat) (text : List Char) : Option (Fin (width + 1)) :=
  if !isDecimal text then none
  else if fits : decimal text ≤ width then some ⟨decimal text, Nat.lt_succ_of_le fits⟩
  else none

/-- `_prefix_from_ip_int`: the length of a mask of leading ones, none if zeroes and ones mix. -/
def prefixFromIpInt (mask : BitVec 32) : Option (Fin 33) :=
  (List.finRange 33).find? fun prefixlen => netmask 32 prefixlen = mask

/-- `_prefix_from_ip_string`: a netmask, else a hostmask, in dotted form. -/
def prefixFromIpString (text : List Char) : Option (Fin 33) := do
  let mask ← ipv4Address text
  (prefixFromIpInt mask).or (prefixFromIpInt (mask ^^^ BitVec.allOnes 32))

/-- `IPv4Network(address, strict=False)` after the split at the slash. -/
def ipv4Network (address : List Char) (mask : Option (List Char)) : Option (Network 32) := do
  let word ← ipv4Address address
  let prefixlen ← match mask with
    | none => some (Fin.last 32)
    | some mask => (prefixFromPrefixString 32 mask).or (prefixFromIpString mask)
  some (Network.ofHost word prefixlen)

/-- `IPv6Network(address, strict=False)` after the split at the slash. -/
def ipv6Network (address : List Char) (mask : Option (List Char)) : Option (Network 128) := do
  let word ← ipv6Address address
  let prefixlen ← match mask with
    | none => some (Fin.last 128)
    | some mask => prefixFromPrefixString 128 mask
  some (Network.ofHost word prefixlen)

/-- `ip_network(text, strict=False)`: version 4 is tried first. -/
def ipNetwork (text : List Char) : Option AnyNetwork :=
  let read (address : List Char) (mask : Option (List Char)) : Option AnyNetwork :=
    match ipv4Network address mask with
    | some network => some (.v4 network)
    | none => (ipv6Network address mask).map .v6
  match text.splitOn '/' with
  | [address] => read address none
  | [address, mask] => read address (some mask)
  | _ => none

namespace AnyNetwork

/-- The version of a network. -/
def version : AnyNetwork → Nat
  | v4 _ => 4
  | v6 _ => 6

/-- `prefixlen` of either version. -/
def prefixlen : AnyNetwork → Nat
  | v4 network => network.prefixlen
  | v6 network => network.prefixlen

/-- `address in network`; never for an address of the other version. -/
def contains : AnyNetwork → Address → Bool
  | v4 network, .v4 word => network.contains word
  | v6 network, .v6 word => network.contains word
  | _, _ => false

/-- A network holds addresses of its own version only. -/
theorem version_of_contains {network : AnyNetwork} {address : Address}
    (member : network.contains address = true) : address.version = network.version := by
  cases network <;> cases address <;> first | rfl | cases member

/-- Two networks of one length that hold a common address are equal. -/
theorem eq_of_contains {first second : AnyNetwork} {address : Address}
    (inFirst : first.contains address = true) (inSecond : second.contains address = true)
    (same : first.prefixlen = second.prefixlen) : first = second := by
  cases first with
  | v4 first =>
    cases second with
    | v4 second =>
      cases address with
      | v4 word => rw [Network.eq_of_contains inFirst inSecond (Fin.ext same)]
      | v6 word => cases inFirst
    | v6 second => cases address <;> first | cases inFirst | cases inSecond
  | v6 first =>
    cases second with
    | v4 second => cases address <;> first | cases inFirst | cases inSecond
    | v6 second =>
      cases address with
      | v4 word => cases inFirst
      | v6 word => rw [Network.eq_of_contains inFirst inSecond (Fin.ext same)]

end AnyNetwork

example : (ipNetwork "10.1.2.3/255.0.0.0".toList).map AnyNetwork.prefixlen = some 8 := by decide

/-! ## The characters of an address -/

/-- A text of characters that an address without a scope may have. -/
abbrev AddressText (text : List Char) : Prop := ∀ char ∈ text, isAddressChar char = true

/-- A text has the characters of its parts and of what separates them. -/
theorem addressText_of_splitOn {separator : Char} {text : List Char}
    (allowed : isAddressChar separator = true)
    (parts : ∀ part ∈ text.splitOn separator, AddressText part) : AddressText text := by
  have joined (pieces : List (List Char)) (each : ∀ part ∈ pieces, AddressText part) :
      AddressText ([separator].intercalate pieces) := by
    induction pieces with
    | nil =>
      intro char listed
      cases listed
    | cons first rest ih =>
      have own := each first List.mem_cons_self
      have later := ih fun part listed => each part (List.mem_cons_of_mem _ listed)
      cases rest with
      | nil =>
        rw [List.intercalate_singleton]
        exact own
      | cons second others =>
        rw [List.intercalate_cons_cons]
        intro char listed
        rw [List.mem_append, List.mem_append, List.mem_singleton] at listed
        rcases listed with (here | same) | behind
        · exact own char here
        · rw [same]
          exact allowed
        · exact later char behind
  have whole := joined (text.splitOn separator) parts
  rw [List.intercalate_splitOn] at whole
  exact whole

/-- Decimal digits are characters of an address. -/
theorem addressText_of_isDecimal {text : List Char} (digits : isDecimal text = true) :
    AddressText text := by
  intro char listed
  rw [isDecimal, Bool.and_eq_true] at digits
  have digit := List.all_eq_true.mp digits.2 char listed
  simp [isAddressChar, hexDigit, digit]

/-- An octet is made of digits. -/
theorem isDecimal_of_parseOctet {text : List Char} {octet : BitVec 8}
    (read : parseOctet text = some octet) : isDecimal text = true := by
  unfold parseOctet at read
  cases digits : isDecimal text with
  | true => rfl
  | false =>
    rw [digits] at read
    cases read

/-- A version 4 address is made of digits and dots. -/
theorem addressText_of_ipv4Address {text : List Char} {word : BitVec 32}
    (read : ipv4Address text = some word) : AddressText text := by
  apply @addressText_of_splitOn '.' _ (by decide)
  unfold ipv4Address at read
  split at read
  · rename_i first second third fourth parts
    obtain ⟨one, firstRead, read⟩ := Option.bind_eq_some_iff.mp read
    obtain ⟨two, secondRead, read⟩ := Option.bind_eq_some_iff.mp read
    obtain ⟨three, thirdRead, read⟩ := Option.bind_eq_some_iff.mp read
    obtain ⟨four, fourthRead, read⟩ := Option.bind_eq_some_iff.mp read
    intro part listed
    rw [parts] at listed
    simp only [List.mem_cons, List.not_mem_nil, or_false] at listed
    rcases listed with same | same | same | same
    · rw [same]
      exact addressText_of_isDecimal (isDecimal_of_parseOctet firstRead)
    · rw [same]
      exact addressText_of_isDecimal (isDecimal_of_parseOctet secondRead)
    · rw [same]
      exact addressText_of_isDecimal (isDecimal_of_parseOctet thirdRead)
    · rw [same]
      exact addressText_of_isDecimal (isDecimal_of_parseOctet fourthRead)
  · cases read

/-- Items that are all read are read one by one. -/
theorem exists_of_mapM {Item Value : Type} {read : Item → Option Value} {items : List Item}
    {values : List Value} (done : items.mapM read = some values) :
    ∀ item ∈ items, ∃ value, read item = some value := by
  induction items generalizing values with
  | nil =>
    intro item listed
    cases listed
  | cons first rest ih =>
    rw [List.mapM_cons] at done
    obtain ⟨value, own, done⟩ := Option.bind_eq_some_iff.mp done
    obtain ⟨others, later, -⟩ := Option.bind_eq_some_iff.mp done
    intro item listed
    cases listed with
    | head => exact ⟨value, own⟩
    | tail _ listed => exact ih later item listed

/-- A hextet is made of hexadecimal digits. -/
theorem addressText_of_parseHextet {text : List Char} {hextet : BitVec 16}
    (read : parseHextet text = some hextet) : AddressText text := by
  obtain ⟨digits, each, -⟩ := Option.bind_eq_some_iff.mp read
  intro char listed
  obtain ⟨digit, found⟩ := exists_of_mapM each char listed
  simp [isAddressChar, found]

/-- The parts of an address that is read, dotted ending included, are made of its characters. -/
theorem addressText_of_expanded {parts expanded : List (List Char)}
    (done : expandIpv4Suffix parts = some expanded)
    (each : ∀ part ∈ expanded, AddressText part) : ∀ part ∈ parts, AddressText part := by
  unfold expandIpv4Suffix at done
  cases last : parts.getLast? with
  | none =>
    rw [last] at done
    cases done
    exact each
  | some ending =>
    rw [last] at done
    simp only at done
    split at done
    · obtain ⟨suffix, read, same⟩ := Option.bind_eq_some_iff.mp done
      have same := Option.some.inj same
      intro part listed
      have split := List.dropLast_append_getLast? _ last
      rw [← split, List.mem_append] at listed
      cases listed with
      | inl before =>
        apply each part
        rw [← same]
        exact List.mem_append_left _ before
      | inr ended =>
        rw [List.mem_singleton.mp ended]
        exact addressText_of_ipv4Address read
    · cases done
      exact each

/-- The parts before a `::` are read, but for an empty one. -/
theorem addressText_of_partsHigh {parts high : List (List Char)}
    (done : partsHigh parts = some high) (each : ∀ part ∈ high, AddressText part) :
    ∀ part ∈ parts, AddressText part := by
  unfold partsHigh at done
  split at done
  · rename_i empty
    split at done
    · rename_i single
      obtain ⟨only, same⟩ := List.length_eq_one_iff.mp single
      rw [same] at empty ⊢
      cases empty
      intro part listed
      rw [List.mem_singleton.mp listed]
      intro char present
      cases present
    · cases done
  · cases done
    exact each

/-- The parts after a `::` are read, but for an empty one. -/
theorem addressText_of_partsLow {parts low : List (List Char)}
    (done : partsLow parts = some low) (each : ∀ part ∈ low, AddressText part) :
    ∀ part ∈ parts, AddressText part := by
  unfold partsLow at done
  split at done
  · rename_i empty
    split at done
    · rename_i single
      obtain ⟨only, same⟩ := List.length_eq_one_iff.mp single
      rw [same] at empty ⊢
      cases empty
      intro part listed
      rw [List.mem_singleton.mp listed]
      intro char present
      cases present
    · cases done
  · cases done
    exact each

/-- Hextets are made of hexadecimal digits. -/
theorem addressText_of_hextets {parts : List (List Char)} {hextets : List (BitVec 16)}
    (read : parts.mapM parseHextet = some hextets) : ∀ part ∈ parts, AddressText part := by
  intro part listed
  obtain ⟨hextet, found⟩ := exists_of_mapM read part listed
  exact addressText_of_parseHextet found

/-- A version 6 address without a scope is made of hexadecimal digits, colons and dots. -/
theorem addressText_of_ipv6FromString {text : List Char} {word : BitVec 128}
    (read : ipv6FromString text = some word) : AddressText text := by
  apply @addressText_of_splitOn ':' _ (by decide)
  unfold ipv6FromString at read
  split at read
  · cases read
  obtain ⟨parts, expanded, read⟩ := Option.bind_eq_some_iff.mp read
  apply addressText_of_expanded expanded
  split at read
  · cases read
  split at read
  · split at read
    · cases read
    · obtain ⟨hextets, all, -⟩ := Option.bind_eq_some_iff.mp read
      exact addressText_of_hextets all
  · rename_i skip inner
    obtain ⟨high, highParts, read⟩ := Option.bind_eq_some_iff.mp read
    obtain ⟨low, lowParts, read⟩ := Option.bind_eq_some_iff.mp read
    split at read
    · cases read
    obtain ⟨highWords, highRead, read⟩ := Option.bind_eq_some_iff.mp read
    obtain ⟨lowWords, lowRead, -⟩ := Option.bind_eq_some_iff.mp read
    have before := addressText_of_partsHigh highParts (addressText_of_hextets highRead)
    have behind := addressText_of_partsLow lowParts (addressText_of_hextets lowRead)
    have skipped : skip ∈ innerEmpty parts := by
      rw [inner]
      exact List.mem_singleton_self skip
    have empty : parts[skip]? = some [] := by
      unfold innerEmpty at skipped
      have kept := (List.mem_filter.mp skipped).2
      exact (of_decide_eq_true kept).2.2
    intro part listed
    have split : parts = parts.take skip ++ [] :: parts.drop (skip + 1) := by
      obtain ⟨bound, same⟩ := List.getElem?_eq_some_iff.mp empty
      rw [← same, List.getElem_cons_drop, List.take_append_drop]
    rw [split, List.mem_append, List.mem_cons] at listed
    rcases listed with here | same | later
    · exact before part here
    · rw [same]
      intro char present
      cases present
    · exact behind part later
  · cases read

/-- A version 6 address without a percent sign has no scope. -/
theorem addressText_of_ipv6Address {text : List Char} {word : BitVec 128}
    (read : ipv6Address text = some word) (noScope : '%' ∉ text) : AddressText text := by
  unfold ipv6Address at read
  split at read
  · cases read
  obtain ⟨address, scope, read⟩ := Option.bind_eq_some_iff.mp read
  have none : text.dropWhile (· ≠ '%') = [] := by
    rw [List.dropWhile_eq_nil_iff]
    intro char listed
    apply decide_eq_true
    intro same
    rw [same] at listed
    exact noScope listed
  unfold splitScopeId at scope
  rw [none] at scope
  cases scope
  exact addressText_of_ipv6FromString read

/-- A prefix length or a netmask of version 4 is made of digits and dots. -/
theorem addressText_of_ipv4Mask {mask : List Char} {prefixlen : Fin 33}
    (read : (prefixFromPrefixString 32 mask).or (prefixFromIpString mask) = some prefixlen) :
    AddressText mask := by
  cases number : prefixFromPrefixString 32 mask with
  | some value =>
    unfold prefixFromPrefixString at number
    cases digits : isDecimal mask with
    | true => exact addressText_of_isDecimal digits
    | false =>
      rw [digits] at number
      cases number
  | none =>
    rw [number, Option.none_or] at read
    obtain ⟨word, dotted, -⟩ := Option.bind_eq_some_iff.mp read
    exact addressText_of_ipv4Address dotted

/-- A version 4 network is made of digits and dots. -/
theorem addressText_of_ipv4Network {address : List Char} {mask : Option (List Char)}
    {network : Network 32} (read : ipv4Network address mask = some network) :
    AddressText address ∧ ∀ given ∈ mask, AddressText given := by
  obtain ⟨word, addressRead, read⟩ := Option.bind_eq_some_iff.mp read
  refine ⟨addressText_of_ipv4Address addressRead, ?_⟩
  intro given present
  rw [Option.mem_def] at present
  rw [present] at read
  obtain ⟨prefixlen, maskRead, -⟩ := Option.bind_eq_some_iff.mp read
  exact addressText_of_ipv4Mask maskRead

/-- A version 6 network without a scope is made of characters of an address. -/
theorem addressText_of_ipv6Network {address : List Char} {mask : Option (List Char)}
    {network : Network 128} (read : ipv6Network address mask = some network)
    (noScope : '%' ∉ address) :
    AddressText address ∧ ∀ given ∈ mask, AddressText given := by
  obtain ⟨word, addressRead, read⟩ := Option.bind_eq_some_iff.mp read
  refine ⟨addressText_of_ipv6Address addressRead noScope, ?_⟩
  intro given present
  rw [Option.mem_def] at present
  rw [present] at read
  obtain ⟨prefixlen, maskRead, -⟩ := Option.bind_eq_some_iff.mp read
  unfold prefixFromPrefixString at maskRead
  cases digits : isDecimal given with
  | true => exact addressText_of_isDecimal digits
  | false =>
    rw [digits] at maskRead
    cases maskRead

/-- What is accepted as a network, and has no scope, is made of hexadecimal digits, dots, colons
and slashes. -/
theorem addressText_of_ipNetwork {text : List Char} (accepted : (ipNetwork text).isSome = true)
    (noScope : '%' ∉ text) : AddressText text := by
  apply @addressText_of_splitOn '/' _ (by decide)
  have inside : ∀ part ∈ text.splitOn '/', '%' ∉ part := by
    intro part listed present
    obtain ⟨before, after, whole⟩ := @Text.exists_around_of_mem ['/'] _ _ listed
    rw [List.intercalate_splitOn] at whole
    apply noScope
    rw [whole]
    exact List.mem_append_left _ (List.mem_append_right _ present)
  have either (address : List Char) (mask : Option (List Char)) (scope : '%' ∉ address)
      (read : ipv4Network address mask = none → (ipv6Network address mask).isSome = true) :
      AddressText address ∧ ∀ given ∈ mask, AddressText given := by
    cases version4 : ipv4Network address mask with
    | some network => exact addressText_of_ipv4Network version4
    | none =>
      obtain ⟨network, version6⟩ := Option.isSome_iff_exists.mp (read version4)
      exact addressText_of_ipv6Network version6 scope
  unfold ipNetwork at accepted
  simp only at accepted
  split at accepted
  · rename_i address parts
    rw [parts] at inside ⊢
    intro part listed
    rw [List.mem_singleton.mp listed]
    have both := either address none (inside address List.mem_cons_self) fun version4 => by
      rw [version4] at accepted
      simpa using accepted
    exact both.1
  · rename_i address mask parts
    rw [parts] at inside ⊢
    have both := either address (some mask) (inside address List.mem_cons_self) fun version4 => by
      rw [version4] at accepted
      simpa using accepted
    intro part listed
    cases listed with
    | head => exact both.1
    | tail _ listed =>
      rw [List.mem_singleton.mp listed]
      exact both.2 mask rfl
  · cases accepted

end TacacsWeb.Library.IpAddress
