import TacacsWeb.Model.Secrets

/-!
# Secrets read back

What the columns of type `EncryptedStr` hold is what the application wrote, under every way to
configure the same master key, through any number of restarts. Where no key can be had nothing is
lost: what is there cannot be loaded, and nothing is written.
-/

namespace TacacsWeb.Verif

open TacacsWeb.Library TacacsWeb.Library.Text TacacsWeb.Model

/-! ## The statement -/

/-- What the code relies on of the cipher: it takes back what it makes of a text, and adds a tag. -/
structure Lawful (aead : Aead) : Prop where
  /-- Decrypting under the same key and nonce gives the plain text. -/
  restores : ∀ key nonce plain, key.length = keyLen → nonce.length = nonceLen →
    aead.decrypt key nonce (aead.encrypt key nonce plain) = some plain
  /-- The cipher text is longer by the tag. -/
  tagged : ∀ key nonce plain, (aead.encrypt key nonce plain).length = plain.length + tagLen

/-- The ways to configure a key. -/
inductive NamesKey (key : List UInt8) : KeySettings → Prop where
  /-- A file of its bytes. -/
  | rawFile (text : Option String) : NamesKey key ⟨some (some key), text⟩
  /-- A file with its base64, in lines of any length and with anything around them that is not of
  the alphabet. -/
  | encodedFile (raw : List UInt8) (text : Option String)
    (same : raw.filter Base64.significant = Base64.encode key) :
    NamesKey key ⟨some (some raw), text⟩
  /-- Such a text in the environment, which is ASCII up to surrounding spaces. -/
  | environment (text : String) (codes : List UInt8) (ascii : asciiBytes (strip text) = some codes)
    (same : codes.filter Base64.significant = Base64.encode key) : NamesKey key ⟨none, some text⟩

/-- The settings configure the key, or none that can be had. -/
def KeyOrNone (key : List UInt8) (settings : KeySettings) : Prop :=
  NamesKey key settings ∨ ∃ fault, settings.masterKey = .error fault

/-- A restart is one under such settings. -/
def Restarts (key : List UInt8) {Place : Type} : SecretEvent Place → Prop
  | .restart settings => KeyOrNone key settings
  | _ => True

/-- Columns as the application sees them: values, that can be had or not. -/
structure PlainColumns (Place : Type) where
  /-- There is a key. -/
  usable : Bool
  /-- The values. -/
  values : Place → Option String

section Plain

variable {Place : Type} [DecidableEq Place]

/-- What an event does to them. -/
def PlainColumns.step (columns : PlainColumns Place) : SecretEvent Place → PlainColumns Place
  | .restart settings => { columns with usable := settings.masterKey.isOk }
  | .write place value _ =>
    if columns.usable then { columns with values := Function.update columns.values place value }
    else columns
  | .rotate current previous newSecret _ _ =>
    if columns.usable then
      { columns with
        values := Function.update
          (Function.update columns.values previous (columns.values current))
          current (some newSecret) }
    else columns

/-- A series of events. -/
def PlainColumns.run (columns : PlainColumns Place) (events : List (SecretEvent Place)) :
    PlainColumns Place := events.foldl PlainColumns.step columns

end Plain

/-- The columns load as their values, or, without a key, not at all unless there is nothing. -/
structure LoadsAs {Place : Type} (aead : Aead) (columns : SecretColumns Place)
    (plain : PlainColumns Place) : Prop where
  /-- With a key. -/
  usable : plain.usable = true → ∀ place, columns.load aead place = .ok (plain.values place)
  /-- Without one. -/
  unusable : plain.usable = false → ∀ place,
    columns.stored place = none ∧ plain.values place = none ∨
      plain.values place ≠ none ∧ ∃ fault, columns.load aead place = .error (.key fault)

/-! ## Texts -/

/-- ASCII bytes are the bytes of their text. -/
theorem asciiBytes_asciiText {codes : List UInt8} (ascii : ∀ code ∈ codes, code.toNat < 128) :
    asciiBytes (asciiText codes) = some codes := by
  have number : ∀ value < 128, (Char.ofNat value).toNat = value := by decide
  have narrow : (codes.map fun byte => Char.ofNat byte.toNat).all
      (fun char => decide (char.toNat < 128)) = true := by
    rw [List.all_map, List.all_eq_true]
    intro code listed
    simpa [number _ (ascii code listed)] using ascii code listed
  have back : (codes.map fun byte => Char.ofNat byte.toNat).map
      (fun char => UInt8.ofNat char.toNat) = codes := by
    rw [List.map_map]
    refine (List.map_congr_left fun code listed => ?_).trans (List.map_id codes)
    simp [number _ (ascii code listed)]
  rw [asciiBytes, asciiText, String.toList_ofList, if_pos narrow, back]

/-- Decoding the encoding of a text gives the text. -/
theorem strictText_encode (text : String) : strictText (Utf8.encode text.toList) = some text := by
  rw [strictText, Utf8.decode_encode, if_pos rfl, String.ofList_toList]

/-! ## The cipher -/

section Cipher

variable {aead : Aead} {key : List UInt8}

/-- A text that has been encrypted is decrypted under the same key. -/
theorem decrypt_encrypted (lawful : Lawful aead) (sized : key.length = keyLen) (plaintext : String)
    (nonce : Nonce) : ∃ token, encryptText aead plaintext key nonce = .ok token ∧
      decryptText aead token key = .ok plaintext := by
  let ct := aead.encrypt key nonce.bytes (Utf8.encode plaintext.toList)
  have fits : ¬key.length ≠ keyLen := by simp [sized]
  refine ⟨asciiText (Base64.encode (nonce.bytes ++ ct)), if_neg fits, ?_⟩
  have ascii : ∀ code ∈ Base64.encode (nonce.bytes ++ ct), code.toNat < 128 := fun code listed =>
    Base64.lt_of_significant (Base64.significant_encode _ code listed)
  have read : (asciiBytes (asciiText (Base64.encode (nonce.bytes ++ ct)))).bind Base64.decode =
      some (nonce.bytes ++ ct) := by
    rw [asciiBytes_asciiText ascii, Option.bind_some, Base64.decode_encode]
  have room : ¬(nonce.bytes ++ ct).length < nonceLen + tagLen := by
    have tagged := lawful.tagged key nonce.bytes (Utf8.encode plaintext.toList)
    rw [List.length_append, nonce.sized, show ct.length = _ from tagged]
    omega
  have front : (nonce.bytes ++ ct).take nonceLen = nonce.bytes := List.take_left' nonce.sized
  have rest : (nonce.bytes ++ ct).drop nonceLen = ct := List.drop_left' nonce.sized
  have restored : aead.decrypt key nonce.bytes ct = some (Utf8.encode plaintext.toList) :=
    lawful.restores key nonce.bytes _ sized nonce.sized
  simp only [decryptText, if_neg fits, read, if_neg room, front, rest, restored, strictText_encode]

/-- Stripping takes no significant byte. -/
theorem filter_stripBytes (raw : List UInt8) :
    (stripBytes raw).filter Base64.significant = raw.filter Base64.significant := by
  have idle : ∀ code, isByteSpace code = true → Base64.significant code = false := by
    intro code space
    have all : ∀ number < 256, isByteSpace (UInt8.ofNat number) = true →
        Base64.significant (UInt8.ofNat number) = false := by decide +kernel
    have found := all code.toNat code.toNat_lt
    rw [UInt8.ofNat_toNat] at found
    exact found space
  rw [stripBytes, List.filter_reverse, Base64.filter_dropWhile idle, List.filter_reverse,
    List.reverse_reverse, Base64.filter_dropWhile idle]

/-- Each way to configure a key gives that key. -/
theorem masterKey_of_names {settings : KeySettings} (sized : key.length = keyLen)
    (names : NamesKey key settings) : settings.masterKey = .ok key := by
  have taken : sizedKey (some key) = .ok key := if_pos sized
  cases names with
  | rawFile text => exact if_pos sized
  | encodedFile raw text same =>
    have long : ¬raw.length = keyLen := by
      have characters := Base64.length_encode key
      have shorter := List.length_filter_le Base64.significant raw
      rw [same, characters, sized] at shorter
      simp only [keyLen] at shorter ⊢
      omega
    have decoded : Base64.decode (stripBytes raw) = some key :=
      Base64.decode_of_filter ((filter_stripBytes raw).trans same)
    rw [KeySettings.masterKey]
    simp only [if_neg long, decoded, taken]
  | environment text codes ascii same =>
    have decoded : (asciiBytes (strip text)).bind Base64.decode = some key := by
      rw [ascii, Option.bind_some, Base64.decode_of_filter same]
    rw [KeySettings.masterKey]
    simp only [decoded, taken]

/-- Whether there is a key says which. -/
theorem KeyOrNone.known {settings : KeySettings} (sized : key.length = keyLen)
    (configured : KeyOrNone key settings) :
    (settings.masterKey.isOk = true → settings.masterKey = .ok key) ∧
      (settings.masterKey.isOk = false → ∃ fault, settings.masterKey = .error fault) := by
  rcases configured with names | ⟨fault, raised⟩
  · have given := masterKey_of_names sized names
    rw [given]
    exact ⟨fun _ => rfl, nofun⟩
  · rw [raised]
    exact ⟨nofun, fun _ => ⟨fault, rfl⟩⟩

end Cipher

/-! ## The columns -/

section Store

variable {Place : Type} {aead : Aead} {key : List UInt8}

/-- A column holds a token of its value. -/
def HoldsValue (aead : Aead) (key : List UInt8) (token value : Option String) : Prop :=
  (token = none ∧ value = none) ∨ ∃ stored plaintext, token = some stored ∧
    value = some plaintext ∧ decryptText aead stored key = .ok plaintext

/-- All columns do, and the settings give the key or none. -/
structure HoldsValues (aead : Aead) (key : List UInt8) (columns : SecretColumns Place)
    (plain : PlainColumns Place) : Prop where
  /-- With a key it is this one. -/
  usable : plain.usable = true → columns.settings.masterKey = .ok key
  /-- Without one it cannot be had. -/
  unusable : plain.usable = false → ∃ fault, columns.settings.masterKey = .error fault
  /-- The columns. -/
  holds : ∀ place, HoldsValue aead key (columns.stored place) (plain.values place)

variable {columns : SecretColumns Place} {plain : PlainColumns Place}

/-- With the key the value is loaded. -/
theorem processResultValue_of_holds {settings : KeySettings} {token value : Option String}
    (given : settings.masterKey = .ok key) (holds : HoldsValue aead key token value) :
    processResultValue aead settings token = .ok value := by
  rcases holds with ⟨rfl, rfl⟩ | ⟨stored, plaintext, rfl, rfl, decrypted⟩
  · rfl
  · simp only [processResultValue, given, decrypted]
    rfl

/-- What the columns load as. -/
theorem HoldsValues.loadsAs (held : HoldsValues aead key columns plain) :
    LoadsAs aead columns plain := by
  constructor
  · intro usable place
    exact processResultValue_of_holds (held.usable usable) (held.holds place)
  · intro unusable place
    obtain ⟨fault, raised⟩ := held.unusable unusable
    rcases held.holds place with nothing | ⟨stored, plaintext, there, value, -⟩
    · exact .inl nothing
    · refine .inr ⟨?_, fault, ?_⟩
      · rw [value]
        exact Option.some_ne_none _
      · rw [SecretColumns.load, there]
        simp only [processResultValue, raised]

/-- Without a key a load that does not raise finds nothing. -/
theorem load_without_key {fault : KeyFault} (raised : columns.settings.masterKey = .error fault)
    {place : Place} {value : Option String} (loaded : columns.load aead place = .ok value) :
    columns.stored place = none ∧ value = none := by
  cases found : columns.stored place with
  | none =>
    rw [SecretColumns.load, found] at loaded
    exact ⟨rfl, (Except.ok.inj loaded).symm⟩
  | some token =>
    rw [SecretColumns.load, found] at loaded
    simp only [processResultValue, raised] at loaded
    cases loaded

variable [DecidableEq Place]

/-- With the key an assignment stores the value. -/
theorem assigned_of_key (lawful : Lawful aead) (sized : key.length = keyLen)
    {settings : KeySettings} (given : settings.masterKey = .ok key)
    {stored : Place → Option String} {values : Place → Option String}
    (holds : ∀ place, HoldsValue aead key (stored place) (values place)) (place : Place)
    (value : Option String) (nonce : Nonce) :
    ∃ after, assigned aead settings stored place (values place) value nonce = .ok after ∧
      ∀ other, HoldsValue aead key (after other) (Function.update values place value other) := by
  by_cases same : value = values place
  · refine ⟨stored, if_pos same, fun other => ?_⟩
    rw [same, Function.update_eq_self]
    exact holds other
  · have bound : ∃ token, processBindParam aead settings nonce value = .ok token ∧
        HoldsValue aead key token value := by
      cases value with
      | none => exact ⟨none, rfl, .inl ⟨rfl, rfl⟩⟩
      | some plaintext =>
        obtain ⟨token, encrypted, decrypted⟩ := decrypt_encrypted lawful sized plaintext nonce
        refine ⟨some token, ?_, .inr ⟨token, plaintext, rfl, rfl, decrypted⟩⟩
        simp only [processBindParam, given, encrypted]
        rfl
    obtain ⟨token, written, kept⟩ := bound
    refine ⟨Function.update stored place token, ?_, fun other => ?_⟩
    · rw [assigned, if_neg same, written]
      rfl
    · by_cases here : other = place
      · rw [here, Function.update_self, Function.update_self]
        exact kept
      · rw [Function.update_of_ne here, Function.update_of_ne here]
        exact holds other

/-- Without a key an assignment leaves what is stored, or raises. -/
theorem assigned_without_key {settings : KeySettings} {fault : KeyFault}
    (raised : settings.masterKey = .error fault) {stored after : Place → Option String}
    {place : Place} {value : Option String} {nonce : Nonce}
    (written : assigned aead settings stored place none value nonce = .ok after) :
    after = stored := by
  cases value with
  | none => exact (Except.ok.inj written).symm
  | some plaintext =>
    simp only [assigned, reduceCtorEq, if_false, processBindParam, raised, Except.map] at written

/-- Without a key nothing is written. -/
theorem attempt_without_key {fault : KeyFault}
    (raised : columns.settings.masterKey = .error fault) {event : SecretEvent Place}
    {after : SecretColumns Place} (running : ∀ settings, event ≠ .restart settings)
    (attempted : columns.attempt aead event = .ok after) : after = columns := by
  cases event with
  | restart settings => exact absurd rfl (running settings)
  | write place value nonce =>
    obtain ⟨loaded, load, rest⟩ := bind_eq_ok.mp attempted
    obtain ⟨stored, written, ended⟩ := bind_eq_ok.mp rest
    obtain ⟨-, rfl⟩ := load_without_key raised load
    rw [← Except.ok.inj ended, assigned_without_key raised written]
  | rotate current previous newSecret nonce nonceToo =>
    obtain ⟨old, load, rest⟩ := bind_eq_ok.mp attempted
    obtain ⟨older, loadToo, restToo⟩ := bind_eq_ok.mp rest
    obtain ⟨stored, written, last⟩ := bind_eq_ok.mp restToo
    obtain ⟨storedToo, writtenToo, ended⟩ := bind_eq_ok.mp last
    obtain ⟨-, rfl⟩ := load_without_key raised load
    obtain ⟨-, rfl⟩ := load_without_key raised loadToo
    rw [← Except.ok.inj ended, assigned_without_key raised writtenToo,
      assigned_without_key raised written]

/-- Without a key, an event other than a restart leaves the columns. -/
theorem step_without_key {fault : KeyFault}
    (raised : columns.settings.masterKey = .error fault) {event : SecretEvent Place}
    (running : ∀ settings, event ≠ .restart settings) : columns.step aead event = columns := by
  rw [SecretColumns.step]
  split
  · rename_i after attempted
    exact attempt_without_key raised running attempted
  · rfl

/-- An event does to the columns what it does to their values. -/
theorem HoldsValues.step (lawful : Lawful aead) (sized : key.length = keyLen)
    (held : HoldsValues aead key columns plain) (event : SecretEvent Place)
    (restarts : Restarts key event) :
    HoldsValues aead key (columns.step aead event) (plain.step event) := by
  cases event with
  | restart settings =>
    have known := restarts.known sized
    exact ⟨known.1, known.2, held.holds⟩
  | write place value nonce =>
    cases usable : plain.usable with
    | true =>
      have given := held.usable usable
      have loaded : columns.load aead place = .ok (plain.values place) :=
        processResultValue_of_holds given (held.holds place)
      obtain ⟨after, written, kept⟩ :=
        assigned_of_key lawful sized given held.holds place value nonce
      have attempted : columns.attempt aead (.write place value nonce) =
          .ok { columns with stored := after } := by
        simp only [SecretColumns.attempt, loaded, written, bind, Except.bind, pure, Except.pure]
      simp only [SecretColumns.step, attempted, PlainColumns.step, usable, if_true]
      exact ⟨fun _ => given, fun unusable => absurd unusable (by simp), kept⟩
    | false =>
      obtain ⟨fault, raised⟩ := held.unusable usable
      rw [step_without_key raised fun settings => by simp]
      simpa only [PlainColumns.step, usable, Bool.false_eq_true, if_false] using held
  | rotate current previous newSecret nonce nonceToo =>
    cases usable : plain.usable with
    | true =>
      have given := held.usable usable
      have loaded (place : Place) : columns.load aead place = .ok (plain.values place) :=
        processResultValue_of_holds given (held.holds place)
      obtain ⟨moved, written, keptMoved⟩ := assigned_of_key lawful sized given held.holds previous
        (plain.values current) nonce
      have same : Function.update plain.values previous (plain.values current) current =
          plain.values current := by
        by_cases here : current = previous
        · rw [here, Function.update_self]
        · rw [Function.update_of_ne here]
      obtain ⟨after, writtenToo, kept⟩ := assigned_of_key lawful sized given keptMoved current
        (some newSecret) nonceToo
      rw [same] at writtenToo
      have attempted : columns.attempt aead (.rotate current previous newSecret nonce nonceToo) =
          .ok { columns with stored := after } := by
        simp only [SecretColumns.attempt, loaded, written, writtenToo, bind, Except.bind, pure,
          Except.pure]
      simp only [SecretColumns.step, attempted, PlainColumns.step, usable, if_true]
      exact ⟨fun _ => given, fun unusable => absurd unusable (by simp), kept⟩
    | false =>
      obtain ⟨fault, raised⟩ := held.unusable usable
      rw [step_without_key raised fun settings => by simp]
      simpa only [PlainColumns.step, usable, Bool.false_eq_true, if_false] using held

/-- A series of events does. -/
theorem HoldsValues.run (lawful : Lawful aead) (sized : key.length = keyLen)
    (held : HoldsValues aead key columns plain) (events : List (SecretEvent Place))
    (restarts : ∀ event ∈ events, Restarts key event) :
    HoldsValues aead key (columns.run aead events) (plain.run events) := by
  induction events generalizing columns plain with
  | nil => exact held
  | cons event events ih =>
    exact ih (held.step lawful sized event (restarts event List.mem_cons_self))
      fun later listed => restarts later (List.mem_cons_of_mem _ listed)

/-- Whatever is written, rotated and started again, as long as every settings configure one key or
none, the columns load as the values that the application wrote while it had the key; while it has
none nothing is loaded but what is empty, and nothing is written. -/
theorem secrets_read_back (lawful : Lawful aead) (sized : key.length = keyLen)
    (start : KeySettings) (configured : KeyOrNone key start) (events : List (SecretEvent Place))
    (restarts : ∀ event ∈ events, Restarts key event) :
    LoadsAs aead (SecretColumns.run aead ⟨start, fun _ => none⟩ events)
      (PlainColumns.run ⟨start.masterKey.isOk, fun _ => none⟩ events) := by
  have begun : HoldsValues aead key (⟨start, fun _ => none⟩ : SecretColumns Place)
      ⟨start.masterKey.isOk, fun _ => none⟩ := by
    have nothing : ∀ place : Place, HoldsValue aead key none none := fun _ => .inl ⟨rfl, rfl⟩
    have known := configured.known sized
    exact ⟨known.1, known.2, nothing⟩
  exact (begun.run lawful sized events restarts).loadsAs

end Store

/-! ## A restart -/

/-- A key of zeros. -/
def zeroKey : List UInt8 := List.replicate keyLen 0

/-- A nonce of zeros. -/
def zeroNonce : Nonce := ⟨List.replicate nonceLen 0, List.length_replicate⟩

/-- The first block of the key stream of AES-256-GCM under that key and nonce, and nothing under
others. -/
def sampleStream (key nonce : List UInt8) : List UInt8 :=
  if key = zeroKey ∧ nonce = zeroNonce.bytes then
    [0xce, 0xa7, 0x40, 0x3d, 0x4d, 0x60, 0x6b, 0x6e, 0x07, 0x4e, 0xc5, 0xd3, 0xba, 0xf3, 0x9d, 0x18]
  else []

/-- A block of zeros. -/
def zeroBlock : List UInt8 := List.replicate 16 0

/-- The tag of AES-256-GCM for a block of zeros under that key and nonce, and of zeros elsewhere. -/
def sampleTag (key nonce plain : List UInt8) : List UInt8 :=
  if key = zeroKey ∧ nonce = zeroNonce.bytes ∧ plain = zeroBlock then
    [0xd0, 0xd1, 0xc8, 0xa7, 0x99, 0x99, 0x6b, 0xf0, 0x26, 0x5b, 0x98, 0xb5, 0xd4, 0x8a, 0xb9, 0x19]
  else List.replicate tagLen 0

/-- Bytes under a key stream, as far as it goes. -/
def masked : List UInt8 → List UInt8 → List UInt8
  | [], bytes => bytes
  | _ :: _, [] => []
  | mask :: stream, byte :: bytes => (byte ^^^ mask) :: masked stream bytes

/-- A cipher that encrypts a block of zeros as AES-256-GCM does. -/
def sampleCipher : Aead where
  encrypt key nonce plain := masked (sampleStream key nonce) plain ++ sampleTag key nonce plain
  decrypt key nonce ct :=
    let plain := masked (sampleStream key nonce) (ct.take (ct.length - tagLen))
    if ct.drop (ct.length - tagLen) = sampleTag key nonce plain then some plain else none

/-- A key stream keeps the length. -/
theorem length_masked (stream bytes : List UInt8) :
    (masked stream bytes).length = bytes.length := by
  induction stream, bytes using masked.induct with
  | case1 bytes => rfl
  | case2 mask stream => rfl
  | case3 mask stream byte bytes ih => rw [masked, List.length_cons, ih, List.length_cons]

/-- The same key stream again takes itself away. -/
theorem masked_masked (stream bytes : List UInt8) :
    masked stream (masked stream bytes) = bytes := by
  induction stream, bytes using masked.induct with
  | case1 bytes => rfl
  | case2 mask stream => rfl
  | case3 mask stream byte bytes ih =>
    have back : byte ^^^ mask ^^^ mask = byte := by
      rw [UInt8.xor_assoc, UInt8.xor_self, UInt8.xor_zero]
    rw [masked, masked, ih, back]

/-- Its tags have their length. -/
theorem length_sampleTag (key nonce plain : List UInt8) :
    (sampleTag key nonce plain).length = tagLen := by
  rw [sampleTag]
  split
  · rfl
  · exact List.length_replicate

/-- The sample cipher takes back what it encrypts. -/
theorem sampleCipher_lawful : Lawful sampleCipher := by
  have tagged (key nonce plain : List UInt8) :
      (masked (sampleStream key nonce) plain ++ sampleTag key nonce plain).length =
        plain.length + tagLen := by
    rw [List.length_append, length_masked, length_sampleTag]
  refine ⟨fun key nonce plain _ _ => ?_, tagged⟩
  have size : (masked (sampleStream key nonce) plain ++ sampleTag key nonce plain).length -
      tagLen = (masked (sampleStream key nonce) plain).length := by
    rw [tagged, length_masked]
    exact Nat.add_sub_cancel _ _
  simp only [sampleCipher, size, List.take_left, List.drop_left, masked_masked, if_true]

/-- The key in a file. -/
def fileSettings : KeySettings := ⟨some (some zeroKey), none⟩

/-- The key of the file in the environment, with the end of its line. -/
def environmentSettings : KeySettings :=
  ⟨none, some "AAAAAAAAAAAAAAAAAAAAAAAAAAAAAAAAAAAAAAAAAAA=\n"⟩

/-- The text whose bytes are a block of zeros. -/
def zeroText : String := String.ofList (List.replicate 16 (Char.ofNat 0))

/-- A secret is written, and the processes are started again with the key in the environment. -/
def rehosted : List (SecretEvent String) :=
  [.write "ldap.bind_password" (some zeroText) zeroNonce, .restart environmentSettings]

/-- The environment names the key. -/
theorem environmentSettings_names : NamesKey zeroKey environmentSettings := by
  have ascii : asciiBytes (strip "AAAAAAAAAAAAAAAAAAAAAAAAAAAAAAAAAAAAAAAAAAA=\n") =
      some (List.replicate 43 65 ++ [61]) := by decide +kernel
  have same : (List.replicate 43 (65 : UInt8) ++ [61]).filter Base64.significant =
      Base64.encode zeroKey := by decide +kernel
  exact .environment _ _ ascii same

/-- The cipher's text and the tag of that block are those of AES-256-GCM. -/
example : sampleCipher.encrypt zeroKey zeroNonce.bytes (Utf8.encode zeroText.toList) =
    [0xce, 0xa7, 0x40, 0x3d, 0x4d, 0x60, 0x6b, 0x6e, 0x07, 0x4e, 0xc5, 0xd3, 0xba, 0xf3, 0x9d, 0x18,
      0xd0, 0xd1, 0xc8, 0xa7, 0x99, 0x99, 0x6b, 0xf0, 0x26, 0x5b, 0x98, 0xb5, 0xd4, 0x8a, 0xb9,
      0x19] := by
  decide +kernel

/-- The secret is loaded after the restart. -/
theorem secrets_read_back_rehosted :
    (SecretColumns.run sampleCipher ⟨fileSettings, fun _ => none⟩ rehosted).load sampleCipher
      "ldap.bind_password" = .ok (some zeroText) := by
  have restarts : ∀ event ∈ rehosted, Restarts zeroKey event := by
    intro event listed
    rcases List.mem_pair.mp listed with rfl | rfl
    · trivial
    · exact .inl environmentSettings_names
  have loads := secrets_read_back sampleCipher_lawful List.length_replicate fileSettings
    (.inl (.rawFile none)) rehosted restarts
  have usable : (PlainColumns.run ⟨fileSettings.masterKey.isOk, fun _ => none⟩ rehosted).usable =
      true := by decide +kernel
  exact loads.usable usable "ldap.bind_password"

end TacacsWeb.Verif
