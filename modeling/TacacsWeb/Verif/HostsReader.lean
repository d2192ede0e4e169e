import TacacsWeb.Library.IpAddress
import TacacsWeb.Library.Lexer
import TacacsWeb.Model.NasConfig

/-!
# Reading the host blocks

A reader of the rendered host blocks that takes double-quoted texts with backslash escapes. What it
reads is one block for each device with a secret, in order, with the address and the secrets as
they are stored, whatever the names and the secrets are.
-/

namespace TacacsWeb.Verif

open TacacsWeb.Library TacacsWeb.Library.IpAddress TacacsWeb.Library.Lexer
open TacacsWeb.Library.Text TacacsWeb.Model

/-! ## The reader -/

/-- A character of a label, an address or a keyword. -/
def isHostsWordChar (char : Char) : Bool :=
  char.isAlphanum || ['_', '.', ':', '/'].contains char

/-- The characters of a hosts file: the line end is a token. -/
def hostsRules : Rules where
  isSpace char := char = ' '
  isDelimiter char := char = '"'
  isWord := isHostsWordChar
  isSymbol char := ['\x7b', '\x7d', '=', '\n'].contains char
  word_only char isWord := by
    have apart : ∀ other ∈ [' ', '"'], isHostsWordChar other = false :=
      forall_of_all (by decide)
    constructor
    · apply decide_eq_false
      intro blank
      rw [blank, apart ' ' (by decide)] at isWord
      cases isWord
    · apply decide_eq_false
      intro delimiter
      rw [delimiter, apart '"' (by decide)] at isWord
      cases isWord
  symbol_only char isSymbol := by
    have apart : ∀ symbol ∈ ['\x7b', '\x7d', '=', '\n'],
        decide (symbol = ' ') = false ∧ decide (symbol = '"') = false ∧
          isHostsWordChar symbol = false := forall_of_all (by decide)
    exact apart char (List.contains_iff_mem.mp isSymbol)
  delimiter_only char isDelimiter := by
    rw [of_decide_eq_true isDelimiter]
    decide

/-- A host block as it is read. -/
structure HostEntry where
  /-- The label. -/
  name : String
  /-- The values of the `address` lines. -/
  addresses : List String
  /-- The values of the `key` lines. -/
  keys : List String
deriving DecidableEq

/-- A line of a hosts file. -/
inductive HostLine where
  /-- Nothing. -/
  | blank
  /-- `host name {`. -/
  | opening (name : String)
  /-- `address = text`. -/
  | address (text : String)
  /-- `key = "secret"`. -/
  | key (secret : String)
  /-- `mavis backend = yes`. -/
  | backend
  /-- `}`. -/
  | closing

/-- The line that some tokens are. -/
def readHostLine : List Token → Option HostLine
  | [] => some .blank
  | [.word "host", .word name, .symbol '\x7b'] => some (.opening name)
  | [.word "address", .symbol '='] => some (.address "")
  | [.word "address", .symbol '=', .word text] => some (.address text)
  | [.word "key", .symbol '=', .quoted '"' pieces] => some (.key (quotedText pieces))
  | [.word "mavis", .word "backend", .symbol '=', .word "yes"] => some .backend
  | [.symbol '\x7d'] => some .closing
  | _ => none

/-- The blocks that are closed, and the block that is open. -/
abbrev HostsRead := List HostEntry × Option HostEntry

/-- What a line does to the blocks. -/
def takeHostLine : HostsRead → HostLine → Option HostsRead
  | (done, none), .blank => some (done, none)
  | (done, none), .opening name => some (done, some ⟨name, [], []⟩)
  | (done, some entry), .address text =>
    some (done, some { entry with addresses := entry.addresses ++ [text] })
  | (done, some entry), .key secret =>
    some (done, some { entry with keys := entry.keys ++ [secret] })
  | (done, some entry), .backend => some (done, some entry)
  | (done, some entry), .closing => some (done ++ [entry], none)
  | _, _ => none

/-- One line of tokens. -/
def stepHosts (read : HostsRead) (found : List Token) : Option HostsRead :=
  (readHostLine found).bind (takeHostLine read)

/-- The blocks of a hosts file, none when the text does not read as one. -/
def readHosts (text : String) : Option (List HostEntry) :=
  (tokens hostsRules text.toList).bind fun found =>
    ((found.splitOn (.symbol '\n')).foldlM stepHosts ([], none)).bind fun read =>
      if read.2 = none then some read.1 else none

/-! ## The tokens of a block -/

/-- A key line and its tokens. -/
def keyEntry (secret : String) : String × List Token :=
  (keyLine secret, [.word "key", .symbol '=',
    .quoted '"' (secret.toList.map (protectedPiece '"'))])

/-- An address line and its tokens. -/
def addressEntry (address : String) : String × List Token :=
  ("    address = " ++ address,
    [.word "address", .symbol '='] ++ if address = "" then [] else [.word address])

/-- The previous secret of a device, where there is one that is not empty. -/
def previousSecrets (device : Device) : List String :=
  device.previousSecretEnc.toList.filter (· ≠ "")

/-- The lines of a block and their tokens. -/
def blockEntries (block : HostBlock) : List (String × List Token) :=
  [("host " ++ block.name ++ " \x7b", [.word "host", .word block.name, .symbol '\x7b']),
    addressEntry block.address, keyEntry block.secret] ++
  (previousSecrets block.device).map keyEntry ++
  [("    mavis backend = yes", [.word "mavis", .word "backend", .symbol '=', .word "yes"]),
    ("\x7d", [.symbol '\x7d'])]

/-- The lines of some blocks and their tokens, with an empty line between two blocks. -/
def hostsEntries (blocks : List HostBlock) : List (String × List Token) :=
  [("", [])].intercalate (blocks.map blockEntries)

/-- What a block is read as. -/
def hostEntry (block : HostBlock) : HostEntry :=
  ⟨block.name, [block.address], block.secret :: previousSecrets block.device⟩

/-- The lines are those of the renderer. -/
theorem blockEntries_lines (block : HostBlock) :
    (blockEntries block).map Prod.fst = block.lines := by
  unfold HostBlock.lines blockEntries previousSecrets
  cases block.device.previousSecretEnc with
  | none => rfl
  | some previous =>
    by_cases empty : previous = ""
    · simp [empty, addressEntry, keyEntry]
    · simp [empty, addressEntry, keyEntry]

/-- The text of some blocks is that of their lines. -/
theorem renderHostBlocks_entries (devices : List Device) :
    (renderHostBlocks devices).toList =
      (hostsEntries (hostBlocks devices)).flatMap fun entry => entry.1.toList ++ ['\n'] := by
  have block (given : HostBlock) : ("\n".intercalate given.lines).toList ++ ['\n'] =
      (blockEntries given).flatMap fun entry => entry.1.toList ++ ['\n'] := by
    have ended := @intercalate_ended Char '\n' (given.lines.map String.toList) (by
      simp [HostBlock.lines])
    rw [String.toList_intercalate]
    rw [← blockEntries_lines] at ended ⊢
    rw [List.flatMap_map, List.flatMap_map] at ended
    exact ended
  have all (first : HostBlock) (rest : List HostBlock) :
      ("\n\n".intercalate ((first :: rest).map fun block =>
          "\n".intercalate block.lines)).toList ++ ['\n'] =
        (hostsEntries (first :: rest)).flatMap fun entry => entry.1.toList ++ ['\n'] := by
    induction rest generalizing first with
    | nil =>
      rw [hostsEntries, List.map_singleton, List.map_singleton, List.intercalate_singleton]
      rw [String.toList_intercalate, List.map_singleton, List.intercalate_singleton]
      exact block first
    | cons second others ih =>
      have later := ih second
      have parts : hostsEntries (first :: second :: others) =
          blockEntries first ++ [("", [])] ++ hostsEntries (second :: others) := by
        rw [hostsEntries, List.map_cons, List.map_cons, List.intercalate_cons_cons]
        rfl
      rw [parts, List.flatMap_append, List.flatMap_append, ← block first, ← later]
      simp [String.toList_intercalate]
  unfold renderHostBlocks
  cases hostBlocks devices with
  | nil => rfl
  | cons first rest =>
    rw [String.toList_append]
    exact all first rest

/-! ## What the loop puts into a block -/

/-- What holds of every block: its label is a word, and its secret is that of its device. -/
structure WellRendered (block : HostBlock) : Prop where
  /-- The label is not empty. -/
  named : block.name ≠ ""
  /-- The label has the characters of a word. -/
  word : ∀ char ∈ block.name.toList, isHostsWordChar char = true
  /-- The secret is that of the device. -/
  secret : provisionedSecret block.device = some block.secret

/-- A character of a label is one of a word. -/
theorem isHostsWordChar_of_safe {char : Char} (safe : isSafeNameChar char = true) :
    isHostsWordChar char = true := by
  simp only [isSafeNameChar, Bool.or_eq_true, Bool.and_eq_true, decide_eq_true_eq] at safe
  rw [isHostsWordChar, Bool.or_eq_true]
  cases safe with
  | inl letters =>
    apply Or.inl
    apply isAlphanum_iff.mpr
    omega
  | inr underscore =>
    apply Or.inr
    rw [underscore]
    decide

/-- A label is a word. -/
theorem safeBlockName_word (name : String) :
    ∀ char ∈ (safeBlockName name).toList, isHostsWordChar char = true :=
  fun char listed => isHostsWordChar_of_safe ((safeBlockName_chars name).2 char listed)

/-- One iteration adds a block like that, or none. -/
theorem renderStep_wellRendered {state : List HostBlock × List String} (device : Device)
    (before : ∀ block ∈ state.1, WellRendered block) :
    ∀ block ∈ (renderStep state device).1, WellRendered block := by
  unfold renderStep
  cases secret : provisionedSecret device with
  | none => exact before
  | some current =>
    intro block listed
    cases List.mem_append.mp listed with
    | inl old => exact before block old
    | inr new =>
      have named := (safeBlockName_chars device.name).1
      have word := safeBlockName_word device.name
      rw [List.mem_singleton.mp new]
      split
      · apply WellRendered.mk _ _ secret
        · intro empty
          have lengths := congrArg String.length empty
          simp at lengths
        · intro char present
          rw [String.toList_append, String.toList_append, List.append_assoc] at present
          cases List.mem_append.mp present with
          | inl safe => exact word char safe
          | inr suffix =>
            cases suffix with
            | head => decide
            | tail _ digits =>
              have digit : char.isDigit = true := by
                have text : (toString device.id).toList = Nat.toDigits 10 device.id :=
                  Nat.toList_repr
                have listed : char ∈ (toString device.id).toList := digits
                rw [text] at listed
                exact Nat.isDigit_of_mem_toDigits (by decide) (by decide) listed
              simp [isHostsWordChar, Char.isAlphanum, digit]
      · exact ⟨named, word, secret⟩

/-- Every block is like that. -/
theorem hostBlocks_wellRendered (devices : List Device) :
    ∀ block ∈ hostBlocks devices, WellRendered block := by
  have run (rows : List Device) (state : List HostBlock × List String)
      (before : ∀ block ∈ state.1, WellRendered block) :
      ∀ block ∈ (rows.foldl renderStep state).1, WellRendered block := by
    induction rows generalizing state with
    | nil => exact before
    | cons device rows ih => exact ih _ (renderStep_wellRendered device before)
  apply run
  intro block listed
  cases listed

/-! ## The tokens of the text -/

/-- A character of an address is one of a word. -/
theorem isHostsWordChar_of_address {char : Char} (address : isAddressChar char = true) :
    isHostsWordChar char = true := by
  simp only [isAddressChar, Bool.or_eq_true, decide_eq_true_eq, or_assoc] at address
  rw [isHostsWordChar, Bool.or_eq_true]
  cases address with
  | inl digit => exact .inl (isAlphanum_of_hexDigit digit)
  | inr other =>
    apply Or.inr
    apply List.contains_iff_mem.mpr
    simp [other]

/-- The line of a secret, whatever the secret is. -/
theorem lineLexes_keyEntry (secret : String) :
    LineLexes hostsRules (keyEntry secret).1 (keyEntry secret).2 := by
  intro rest later ends lexes
  have protectedText : (escapeQuoted secret).toList =
      (secret.toList.map (protectedPiece '"')).flatMap Piece.text :=
    toList_replaceChar_protected (by decide) rfl secret
  have written : (keyLine secret).toList ++ rest =
      "    key = ".toList ++ '"' :: ((escapeQuoted secret).toList ++ '"' :: rest) := by
    have opened : "    key = \"" = "    key = " ++ "\"" := rfl
    rw [keyLine, opened]
    simp
  have value : Lexes hostsRules ('"' :: ((escapeQuoted secret).toList ++ '"' :: rest))
      (.quoted '"' (secret.toList.map (protectedPiece '"')) :: later) := by
    rw [protectedText]
    exact Lexes.quoted rfl (scan_protected _ (by decide)) lexes
  show Lexes hostsRules ((keyLine secret).toList ++ rest) _
  rw [written]
  exact Lexes.prefixed "    key = " [.word "key", .symbol '='] (by decide) (by decide) value

/-- The line of an address. -/
theorem lineLexes_addressEntry {address : String}
    (chars : ∀ char ∈ address.toList, isAddressChar char = true) :
    LineLexes hostsRules (addressEntry address).1 (addressEntry address).2 := by
  intro rest later ends lexes
  have letters : ∀ char ∈ address.toList, isHostsWordChar char = true :=
    fun char listed => isHostsWordChar_of_address (chars char listed)
  have written : (addressEntry address).1.toList ++ rest =
      "    address =".toList ++ ' ' :: (address.toList ++ rest) := by
    have opened : "    address = " = "    address =" ++ " " := rfl
    rw [addressEntry, opened]
    simp
  rw [written, addressEntry, List.append_assoc]
  apply Lexes.prefixed "    address =" [.word "address", .symbol '='] (by decide) (by decide)
  apply Lexes.space rfl
  split
  · rename_i empty
    rw [empty]
    exact lexes
  · rename_i nonempty
    have word := Lexes.word (fun empty => nonempty (String.toList_eq_nil_iff.mp empty)) letters
      ends lexes
    rw [String.ofList_toList] at word
    exact word

/-- The line of a label. -/
theorem lineLexes_opening {name : String} (named : name ≠ "")
    (word : ∀ char ∈ name.toList, isHostsWordChar char = true) :
    LineLexes hostsRules ("host " ++ name ++ " \x7b")
      [.word "host", .word name, .symbol '\x7b'] := by
  intro rest later ends lexes
  have written : ("host " ++ name ++ " \x7b").toList ++ rest =
      "host".toList ++ ' ' :: (name.toList ++ ' ' :: '\x7b' :: rest) := by
    have opened : "host " = "host" ++ " " := rfl
    rw [opened]
    simp
  have brace : Lexes hostsRules (' ' :: '\x7b' :: rest) (.symbol '\x7b' :: later) :=
    Lexes.space rfl (Lexes.symbol rfl lexes)
  have label := Lexes.word (fun empty => named (String.toList_eq_nil_iff.mp empty)) word
    (endsWord_cons (by decide)) brace
  rw [String.ofList_toList] at label
  rw [written]
  exact Lexes.prefixed "host" [.word "host"] (by decide) (by decide) (Lexes.space rfl label)

/-- Every line of a block has its tokens, and the line end is not among them. -/
theorem blockEntries_lex {block : HostBlock} (rendered : WellRendered block)
    (chars : ∀ char ∈ block.address.toList, isAddressChar char = true) :
    ∀ entry ∈ blockEntries block,
      LineLexes hostsRules entry.1 entry.2 ∧ .symbol '\n' ∉ entry.2 := by
  have key (secret : String) : LineLexes hostsRules (keyEntry secret).1 (keyEntry secret).2 ∧
      .symbol '\n' ∉ (keyEntry secret).2 :=
    ⟨lineLexes_keyEntry secret, by simp [keyEntry]⟩
  intro entry listed
  unfold blockEntries at listed
  simp only [List.mem_append, List.mem_cons, List.mem_map, List.not_mem_nil, or_false] at listed
  rcases listed with ((opening | address | current) | previous) | backend | closing
  · rw [opening]
    exact ⟨lineLexes_opening rendered.named rendered.word, by simp⟩
  · rw [address]
    refine ⟨lineLexes_addressEntry chars, ?_⟩
    unfold addressEntry
    split
    · simp
    · simp
  · rw [current]
    exact key block.secret
  · obtain ⟨secret, -, same⟩ := previous
    rw [← same]
    exact key secret
  · rw [backend]
    exact ⟨lineLexes_of_tokens (by decide), by simp⟩
  · rw [closing]
    exact ⟨lineLexes_of_tokens (by decide), by simp⟩

/-- What holds of every entry of the blocks holds of every entry of their text. -/
theorem mem_hostsEntries {blocks : List HostBlock} {entry : String × List Token}
    (listed : entry ∈ hostsEntries blocks) :
    entry = ("", []) ∨ ∃ block ∈ blocks, entry ∈ blockEntries block := by
  unfold hostsEntries at listed
  induction blocks with
  | nil => cases listed
  | cons first rest ih =>
    cases rest with
    | nil =>
      rw [List.map_singleton, List.intercalate_singleton] at listed
      exact .inr ⟨first, List.mem_cons_self, listed⟩
    | cons second others =>
      rw [List.map_cons, List.map_cons, List.intercalate_cons_cons] at listed
      cases List.mem_append.mp listed with
      | inr later =>
        have found := ih later
        apply found.imp id
        intro found
        obtain ⟨block, present, own⟩ := found
        exact ⟨block, List.mem_cons_of_mem _ present, own⟩
      | inl here =>
        cases List.mem_append.mp here with
        | inl own => exact .inr ⟨first, List.mem_cons_self, own⟩
        | inr blank => exact .inl (List.mem_singleton.mp blank)

/-- The tokens of the text, line by line. -/
theorem tokens_renderHostBlocks {devices : List Device}
    (addresses : ∀ device ∈ devices, ∀ char ∈ device.ipOrCidr.toList, isAddressChar char = true) :
    ∃ found, tokens hostsRules (renderHostBlocks devices).toList = some found ∧
      found.splitOn (.symbol '\n') = (hostsEntries (hostBlocks devices)).map Prod.snd ++ [[]] := by
  have each : ∀ entry ∈ hostsEntries (hostBlocks devices),
      LineLexes hostsRules entry.1 entry.2 ∧ .symbol '\n' ∉ entry.2 := by
    intro entry listed
    cases mem_hostsEntries listed with
    | inl blank =>
      rw [blank]
      exact ⟨lineLexes_of_tokens (by decide), by simp⟩
    | inr own =>
      obtain ⟨block, present, own⟩ := own
      have device := (mem_hostBlocks_device.mp ⟨block, present, rfl⟩).1
      exact blockEntries_lex (hostBlocks_wellRendered devices block present)
        (addresses block.device device) entry own
  have lexes := lexes_endedLines rfl fun entry listed => (each entry listed).1
  have whole : ∀ part ∈ (hostsEntries (hostBlocks devices)).map Prod.snd,
      .symbol '\n' ∉ part := by
    intro part listed
    obtain ⟨entry, present, same⟩ := List.mem_map.mp listed
    rw [← same]
    exact (each entry present).2
  have parts := splitOn_ended whole
  rw [List.flatMap_map] at parts
  rw [renderHostBlocks_entries]
  exact ⟨_, lexes.tokens_eq, parts⟩

/-! ## The blocks in the tokens -/

/-- The key lines of some secrets add the secrets to the open block. -/
theorem foldlM_keys (done : List HostEntry) (entry : HostEntry) (secrets : List String) :
    ((secrets.map keyEntry).map Prod.snd).foldlM stepHosts (done, some entry) =
      some (done, some { entry with keys := entry.keys ++ secrets }) := by
  induction secrets generalizing entry with
  | nil => simp
  | cons secret secrets ih =>
    have first : stepHosts (done, some entry) (keyEntry secret).2 =
        some (done, some { entry with keys := entry.keys ++ [secret] }) := by
      have read : readHostLine (keyEntry secret).2 = some (.key secret) := by
        rw [← quotedText_protected '"' secret]
        simp only [keyEntry, readHostLine, quotedText_protected]
      rw [stepHosts, read]
      rfl
    rw [List.map_cons, List.map_cons, List.foldlM_cons, first, Option.bind_eq_bind,
      Option.bind_some, ih]
    simp

/-- The lines of a block add what the block is read as. -/
theorem foldlM_block (done : List HostEntry) (block : HostBlock) :
    ((blockEntries block).map Prod.snd).foldlM stepHosts (done, none) =
      some (done ++ [hostEntry block], none) := by
  have address : stepHosts (done, some ⟨block.name, [], []⟩) (addressEntry block.address).2 =
      some (done, some ⟨block.name, [block.address], []⟩) := by
    unfold addressEntry
    split
    · rename_i empty
      rw [empty]
      rfl
    · rfl
  have keys := foldlM_keys done ⟨block.name, [block.address], []⟩
    (block.secret :: previousSecrets block.device)
  have parts : (blockEntries block).map Prod.snd =
      [[.word "host", .word block.name, .symbol '\x7b'], (addressEntry block.address).2] ++
        (((block.secret :: previousSecrets block.device).map keyEntry).map Prod.snd ++
          [[.word "mavis", .word "backend", .symbol '=', .word "yes"], [.symbol '\x7d']]) := by
    simp [blockEntries]
  rw [parts, List.foldlM_append]
  have opening : [[Token.word "host", .word block.name, .symbol '\x7b'],
      (addressEntry block.address).2].foldlM stepHosts (done, none) =
        some (done, some ⟨block.name, [block.address], []⟩) := by
    rw [List.foldlM_cons]
    show (stepHosts (done, some ⟨block.name, [], []⟩) (addressEntry block.address).2).bind _ = _
    rw [address]
    rfl
  rw [opening, Option.bind_eq_bind, Option.bind_some, List.foldlM_append, keys]
  rfl

/-- The lines of a text add what its blocks are read as. -/
theorem foldlM_hostsEntries (done : List HostEntry) (blocks : List HostBlock) :
    ((hostsEntries blocks).map Prod.snd).foldlM stepHosts (done, none) =
      some (done ++ blocks.map hostEntry, none) := by
  induction blocks generalizing done with
  | nil => simp [hostsEntries]
  | cons first rest ih =>
    cases rest with
    | nil =>
      rw [hostsEntries, List.map_singleton, List.intercalate_singleton]
      exact foldlM_block done first
    | cons second others =>
      have later := ih (done ++ [hostEntry first])
      have parts : (hostsEntries (first :: second :: others)).map Prod.snd =
          (blockEntries first).map Prod.snd ++
            ([] :: (hostsEntries (second :: others)).map Prod.snd) := by
        rw [hostsEntries, List.map_cons, List.map_cons, List.intercalate_cons_cons]
        simp [hostsEntries]
      rw [parts, List.foldlM_append, foldlM_block, Option.bind_eq_bind, Option.bind_some,
        List.foldlM_cons]
      show ((hostsEntries (second :: others)).map Prod.snd).foldlM stepHosts
        (done ++ [hostEntry first], none) = _
      rw [later]
      simp

/-- The text of the rows reads as their blocks. -/
theorem readHosts_renderHostBlocks {devices : List Device}
    (addresses : ∀ device ∈ devices, ∀ char ∈ device.ipOrCidr.toList, isAddressChar char = true) :
    readHosts (renderHostBlocks devices) = some ((hostBlocks devices).map hostEntry) := by
  obtain ⟨found, lexed, parts⟩ := tokens_renderHostBlocks addresses
  rw [readHosts, lexed, Option.bind_some, parts, List.foldlM_append, foldlM_hostsEntries]
  rfl

/-! ## The round trip -/

/-- The secrets of a device that are stored and not empty, the current one first. -/
def storedSecrets (device : Device) : List String :=
  (device.currentSecretEnc.toList ++ device.previousSecretEnc.toList).filter (· ≠ "")

/-- A block is that of a device. -/
structure IsHostOf (device : Device) (entry : HostEntry) : Prop where
  /-- The address is the device's. -/
  address : entry.addresses = [device.ipOrCidr]
  /-- The keys are the device's. -/
  keys : entry.keys = storedSecrets device

/-- What it takes for the text of some devices to be read back. -/
structure HostsRoundTrip (devices : List Device) : Prop where
  /-- One block is read for each device with a secret, in the order of name and id. -/
  blocks : ∃ rows entries, rows.Perm (devices.filter isProvisioned) ∧ rows.Pairwise sortsBefore ∧
    readHosts (renderHostBlocks devices) = some entries ∧ List.Forall₂ IsHostOf rows entries
  /-- The order of the devices makes no difference. -/
  permuted : ∀ rows : List Device, rows.Perm devices →
    renderHostBlocks rows = renderHostBlocks devices

/-- A block is read as that of its device. -/
theorem isHostOf_hostEntry {block : HostBlock} (rendered : WellRendered block) :
    IsHostOf block.device (hostEntry block) where
  address := rfl
  keys := by
    have secret := rendered.secret
    unfold provisionedSecret at secret
    unfold storedSecrets hostEntry previousSecrets
    cases current : block.device.currentSecretEnc with
    | none =>
      rw [current] at secret
      cases secret
    | some text =>
      rw [current] at secret
      simp only at secret
      split at secret
      · cases secret
      · rename_i nonempty
        have same := Option.some.inj secret
        simp [same ▸ nonempty, same]

/-- Whatever the names and the secrets of the devices are, the text of a hosts file reads as one
block for each device with a secret, in the order of name and id, with its address and its stored
secrets, and the order in which the devices come makes no difference. -/
theorem renderHostBlocks_roundTrip (devices : List Device)
    (ids : (devices.map Device.id).Nodup)
    (addresses : ∀ device ∈ devices, ∀ char ∈ device.ipOrCidr.toList, isAddressChar char = true) :
    HostsRoundTrip devices where
  blocks := by
    have sources := foldl_renderStep (devices.insertionSort sortsBefore) ([], [])
    rw [List.map_nil, List.nil_append] at sources
    refine ⟨(hostBlocks devices).map HostBlock.device, (hostBlocks devices).map hostEntry,
      ?_, ?_, readHosts_renderHostBlocks addresses, ?_⟩
    · rw [hostBlocks, sources]
      exact (List.perm_insertionSort sortsBefore devices).filter _
    · rw [hostBlocks, sources]
      exact (List.pairwise_insertionSort sortsBefore devices).filter _
    · have each := hostBlocks_wellRendered devices
      rw [List.forall₂_map_left_iff, List.forall₂_map_right_iff, List.forall₂_same]
      exact fun block listed => isHostOf_hostEntry (each block listed)
  permuted rows permuted := by
    unfold renderHostBlocks
    rw [hostBlocks_perm ids permuted]

/-- Two devices, one with quotes, braces, backslashes and line ends in its secrets. -/
theorem renderHostBlocks_roundTrip_sample :
    HostsRoundTrip
      [⟨2, "core \x7b", "10.0.0.0/8", 1, some "a\\\"\n\x7d\nhost x \x7b", some "\"", none, none⟩,
        ⟨1, "access", "2001:db8::1", 1, none, some "old", none, none⟩] := by
  apply renderHostBlocks_roundTrip
  · decide
  · intro device listed
    cases listed with
    | head => exact forall_of_all (by decide)
    | tail _ listed =>
      rw [List.mem_singleton.mp listed]
      exact forall_of_all (by decide)

end TacacsWeb.Verif
