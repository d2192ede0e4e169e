import TacacsWeb.Library.Text
import TacacsWeb.Model.Schema
import Mathlib.Data.List.Sort
import Mathlib.Data.String.Basic

/-!
# Rendering the NAS configuration

`app.nas_config`: one `host` block for each device with a secret, in the order of the
device names, and the bootstrap blocks that stand in for an empty rendering. A block keeps
the device it was made from, which the text does not show.
-/

namespace TacacsWeb.Model

open TacacsWeb.Library.Text

/-- The characters that `_SAFE_NAME_CHARS` leaves in place. -/
def isSafeNameChar (char : Char) : Bool :=
  let code := char.toNat
  65 ≤ code && code ≤ 90 || 97 ≤ code && code ≤ 122 || 48 ≤ code && code ≤ 57 || char = '_'

/-- `re.sub(r"_+", "_", ...)`. -/
def collapseUnderscores : List Char → List Char
  | [] => []
  | '_' :: '_' :: rest => collapseUnderscores ('_' :: rest)
  | char :: rest => char :: collapseUnderscores rest

/-- `_safe_block_name`. -/
def safeBlockName (name : String) : String :=
  let cleaned := collapseUnderscores
    (name.toList.map fun char => if isSafeNameChar char then char else '_')
  let stripped := dropEndWhile (· = '_') (cleaned.dropWhile (· = '_'))
  if stripped = [] then "dev" else String.ofList stripped

/-- `_escape_quoted`. -/
def escapeQuoted (value : String) : String :=
  replaceChar '"' "\\\"" (replaceChar '\\' "\\\\" value)

/-- One rendered block. -/
structure HostBlock where
  /-- The label. -/
  name : String
  /-- The device the block was made from. -/
  device : Device
  /-- The secret of the device. -/
  secret : String
deriving DecidableEq

/-- The `address` of a block. -/
def HostBlock.address (block : HostBlock) : String := block.device.ipOrCidr

/-- The `key` line of a secret. -/
def keyLine (secret : String) : String := "    key = \"" ++ escapeQuoted secret ++ "\""

/-- The lines of a block. -/
def HostBlock.lines (block : HostBlock) : List String :=
  ["host " ++ block.name ++ " \x7b", "    address = " ++ block.address, keyLine block.secret] ++
  (match block.device.previousSecretEnc with
    | none => []
    | some previous => if previous = "" then [] else [keyLine previous]) ++
  ["    mavis backend = yes", "\x7d"]

/-- The sort key `(d.name, d.id or 0)`. -/
def sortsBefore (a b : Device) : Prop := a.name < b.name ∨ a.name = b.name ∧ a.id ≤ b.id

instance : DecidableRel sortsBefore := fun a b =>
  inferInstanceAs (Decidable (a.name < b.name ∨ a.name = b.name ∧ a.id ≤ b.id))

/-- The secret that a block is rendered with, none for an unprovisioned device. -/
def provisionedSecret (device : Device) : Option String :=
  match device.currentSecretEnc with
  | none => none
  | some secret => if secret = "" then none else some secret

/-- One iteration of the loop of `render_host_blocks`, on the blocks and the names seen. -/
def renderStep (state : List HostBlock × List String) (device : Device) :
    List HostBlock × List String :=
  match provisionedSecret device with
  | none => state
  | some secret =>
    let safe := safeBlockName device.name
    let name := if safe ∈ state.2 then safe ++ "_" ++ toString device.id else safe
    (state.1 ++ [⟨name, device, secret⟩], name :: state.2)

/-- The blocks of `render_host_blocks`. -/
def hostBlocks (devices : List Device) : List HostBlock :=
  ((devices.insertionSort sortsBefore).foldl renderStep ([], [])).1

/-- `render_host_blocks`. -/
def renderHostBlocks (devices : List Device) : String :=
  match hostBlocks devices with
  | [] => ""
  | blocks =>
    "\n\n".intercalate (blocks.map fun block => "\n".intercalate block.lines) ++ "\n"

/-- `_fallback_block`. -/
def fallbackBlock (sharedSecret : String) : String :=
  "host bootstrap \x7b\n" ++
  "    address = 0.0.0.0/0\n" ++
  "    address = ::/0\n" ++
  "    key = \"" ++ escapeQuoted sharedSecret ++ "\"\n" ++
  "    mavis backend = yes\n" ++
  "\x7d\n" ++
  "\n" ++
  "# Docker healthcheck probes via TCP from the container's own\n" ++
  "# loopback; matching it explicitly stops the log from filling\n" ++
  "# with \x60connection request from ::1 ... rejected (host unknown)\x60\n" ++
  "# every 15 seconds.\n" ++
  "host healthcheck \x7b\n" ++
  "    address = 127.0.0.1\n" ++
  "    address = ::1\n" ++
  "    key = \"healthcheck-only-no-tacacs-traffic\"\n" ++
  "\x7d\n"

/-- What `regenerate_nas_config` writes for the rows it read, under `TACACS_SHARED_SECRET`. -/
def hostsContent (sharedSecret : String) (devices : List Device) : String :=
  let rendered := renderHostBlocks devices
  if rendered = "" then if sharedSecret = "" then rendered else fallbackBlock sharedSecret
  else rendered

/-! ## The order of the rows -/

instance : Std.Total sortsBefore := ⟨fun a b => by
  unfold sortsBefore
  rcases lt_trichotomy a.name b.name with less | same | more
  · exact .inl (.inl less)
  · rcases Nat.le_total a.id b.id with below | above
    · exact .inl (.inr ⟨same, below⟩)
    · exact .inr (.inr ⟨same.symm, above⟩)
  · exact .inr (.inl more)⟩

instance : IsTrans Device sortsBefore := ⟨fun a b c first second => by
  unfold sortsBefore at *
  rcases first with less | ⟨same, below⟩
  · rcases second with more | ⟨equal, -⟩
    · exact .inl (less.trans more)
    · exact .inl (equal ▸ less)
  · rcases second with more | ⟨equal, above⟩
    · exact .inl (same ▸ more)
    · exact .inr ⟨same.trans equal, below.trans above⟩⟩

/-- Two devices that sort before each other have the same id. -/
theorem sortsBefore_antisymm {a b : Device} (first : sortsBefore a b) (second : sortsBefore b a) :
    a.id = b.id := by
  unfold sortsBefore at *
  rcases first with less | ⟨same, below⟩
  · rcases second with more | ⟨equal, -⟩
    · exact absurd (less.trans more) (lt_irrefl _)
    · exact absurd (equal ▸ less) (lt_irrefl _)
  · rcases second with more | ⟨-, above⟩
    · exact absurd (same ▸ more) (lt_irrefl _)
    · exact le_antisymm below above

/-- The blocks depend on the rows of a table and not on their order. -/
theorem hostBlocks_perm {devices rows : List Device} (distinct : (devices.map Device.id).Nodup)
    (permuted : rows.Perm devices) : hostBlocks rows = hostBlocks devices := by
  have sorted : rows.insertionSort sortsBefore = devices.insertionSort sortsBefore := by
    refine List.Perm.eq_of_pairwise (fun a b inRows inDevices first second => ?_)
      (List.pairwise_insertionSort sortsBefore _) (List.pairwise_insertionSort sortsBefore _)
      (((List.perm_insertionSort _ _).trans permuted).trans (List.perm_insertionSort _ _).symm)
    rw [List.mem_insertionSort] at inRows inDevices
    exact List.inj_on_of_nodup_map distinct (permuted.mem_iff.mp inRows) inDevices
      (sortsBefore_antisymm first second)
  rw [hostBlocks, sorted, hostBlocks]

/-- The rendering depends on the rows of a table and not on their order. -/
theorem hostsContent_perm (sharedSecret : String) {devices rows : List Device}
    (distinct : (devices.map Device.id).Nodup) (permuted : rows.Perm devices) :
    hostsContent sharedSecret rows = hostsContent sharedSecret devices := by
  unfold hostsContent renderHostBlocks
  rw [hostBlocks_perm distinct permuted]

/-! ## The labels -/

/-- A run of underscores is made of characters that were there. -/
theorem mem_collapseUnderscores {chars : List Char} {char : Char}
    (listed : char ∈ collapseUnderscores chars) : char ∈ chars := by
  induction chars using collapseUnderscores.induct with
  | case1 => cases listed
  | case2 rest ih =>
    rw [collapseUnderscores] at listed
    exact List.mem_cons_of_mem _ (ih listed)
  | case3 first rest apart ih =>
    rw [collapseUnderscores] at listed
    · cases listed with
      | head => exact List.mem_cons_self
      | tail _ listed => exact List.mem_cons_of_mem _ (ih listed)
    · exact apart

/-- A label is not empty, and has letters, digits and underscores only. -/
theorem safeBlockName_chars (name : String) :
    safeBlockName name ≠ "" ∧
      ∀ char ∈ (safeBlockName name).toList, isSafeNameChar char = true := by
  simp only [safeBlockName]
  split
  · exact ⟨by decide, forall_of_all (by decide)⟩
  · rename_i nonempty
    constructor
    · intro empty
      exact nonempty (String.ofList_injective empty)
    · intro char listed
      rw [String.toList_ofList, dropEndWhile, List.mem_reverse] at listed
      have kept := (List.dropWhile_sublist _).mem listed
      rw [List.mem_reverse] at kept
      have cleaned := mem_collapseUnderscores ((List.dropWhile_sublist _).mem kept)
      obtain ⟨source, -, same⟩ := List.mem_map.mp cleaned
      rw [← same]
      split
      · assumption
      · decide

/-! ## The devices behind the blocks -/

/-- A device gets a block when it has a secret. -/
def isProvisioned (device : Device) : Bool := (provisionedSecret device).isSome

/-- The loop adds one block for each provisioned device, in order. -/
theorem foldl_renderStep (devices : List Device) (state : List HostBlock × List String) :
    (devices.foldl renderStep state).1.map HostBlock.device =
      state.1.map HostBlock.device ++ devices.filter isProvisioned := by
  induction devices generalizing state with
  | nil => simp
  | cons device devices ih =>
    rw [List.foldl_cons, ih]
    unfold renderStep
    cases secret : provisionedSecret device with
    | none => simp [isProvisioned, secret]
    | some secret => simp [isProvisioned, secret]

/-- The blocks stand for the provisioned devices. -/
theorem mem_hostBlocks_device {devices : List Device} {device : Device} :
    (∃ block ∈ hostBlocks devices, block.device = device) ↔
      device ∈ devices ∧ isProvisioned device = true := by
  have sources := foldl_renderStep (devices.insertionSort sortsBefore) ([], [])
  rw [List.map_nil, List.nil_append] at sources
  have mapped : (∃ block ∈ hostBlocks devices, block.device = device) ↔
      device ∈ (hostBlocks devices).map HostBlock.device := by
    rw [List.mem_map]
  rw [mapped, hostBlocks, sources, List.mem_filter, List.mem_insertionSort]

end TacacsWeb.Model
