/-
  ClusterBoot.Definition
  ────────────────────────────────
  **READING AN IMAGE DEFINITION.**

  A definition is a TOML document.  Its records are tables whose keys are
  looked at in ascending order, so of several faults the one under the first
  key is reported, and a missing key only after all others.  A record may
  also be written as an array of its fields in order.  Keys that are not
  known do not count, but their values must be in range.
-/
import ClusterBoot.ClusterDefinition
import ClusterBoot.Toml.Reader
import ClusterBoot.Trouble

namespace ClusterBoot.Definition

open Toml (Value)

/-! ## §1. Values that do not count. -/

/-- Whether a whole number fits into 128 bits, with or without a sign. -/
def isInRange (n : Int) : Bool :=
  -0x80000000000000000000000000000000 ≤ n && n ≤ 0xFFFFFFFFFFFFFFFFFFFFFFFFFFFFFFFF

mutual

/-- Whether all numbers in a value are in range. -/
def isReadable : Value → Bool
  | .int n => isInRange n
  | .float tooLarge => !tooLarge
  | .array items => areReadable items
  | .table entries => arePairsReadable entries
  | _ => true

/-- Whether all numbers in the items of an array are in range. -/
def areReadable : List Value → Bool
  | [] => true
  | v :: vs => isReadable v && areReadable vs

/-- Whether all numbers in the entries of a table are in range. -/
def arePairsReadable : List (String × Value) → Bool
  | [] => true
  | (_, v) :: es => isReadable v && arePairsReadable es

end

/-! ## §2. Fields. -/

/-- A result or a fault of the definition. -/
abbrev Result := Except DefinitionFault

/-- A text. -/
def readString : Value → Result String
  | .str s => .ok s
  | _ => .error .malformed

/-- A truth value. -/
def readBool : Value → Result Bool
  | .bool b => .ok b
  | _ => .error .malformed

/-- The architecture with a name. -/
def readArch (v : Value) : Result Arch := do
  let name ← readString v
  match Arch.ofText? name with
  | some a => .ok a
  | none => .error (.unsupportedArch (Arch.normalize name))

/-- The kind of node that a word names. -/
def kindOfWord (word : String) : Result NodeKind :=
  if word = "server" then .ok .server
  else if word = "agent" then .ok .agent
  else .error (.unknownVariant word)

/-- A kind of node: a word, or a table whose only key is one, with nothing
under it. -/
def readKind : Value → Result NodeKind
  | .str word => kindOfWord word
  | .table [(word, inner)] => do
      let kind ← kindOfWord word
      match inner with
      | .array [] | .table [] => .ok kind
      | _ => .error .malformed
  | _ => .error .malformed

/-! ## §3. Records. -/

/-- The entries of a table in ascending order of their keys. -/
def ascending (entries : List (String × Value)) : List (String × Value) :=
  entries.mergeSort fun a b => decide (a.1 ≤ b.1)

/-- How a record is read: the names of its fields in order, what a key and
its value add to a draft, and the record that a draft makes.  What is missing
in a draft is reported by the given fault. -/
structure Shape (δ ρ : Type) where
  /-- The names of the fields. -/
  names : List String
  /-- Nothing read yet. -/
  blank : δ
  /-- Add what is under a key. -/
  set : String → Value → δ → Result δ
  /-- Make the record. -/
  finish : (String → DefinitionFault) → δ → Result ρ

/-- Add what is under some keys. -/
def Shape.setAll {δ ρ : Type} (s : Shape δ ρ) (entries : List (String × Value)) : Result δ :=
  entries.foldlM (fun d e => s.set e.1 e.2 d) s.blank

/-- Read a record.  A date counts as a table without any of its keys. -/
def Shape.read {δ ρ : Type} (s : Shape δ ρ) : Value → Result ρ
  | .table entries => do s.finish .missingField (← s.setAll (ascending entries))
  | .array items => do s.finish (fun _ => .malformed) (← s.setAll (s.names.zip items))
  | .datetime => s.finish .missingField s.blank
  | _ => .error .malformed

/-- A field that must be there. -/
def required {α : Type} (fault : String → DefinitionFault) (name : String) :
    Option α → Result α
  | some a => .ok a
  | none => .error (fault name)

/-- A key that is not known. -/
def ignore {δ : Type} (v : Value) (d : δ) : Result δ :=
  if isReadable v then .ok d else .error .malformed

/-! ## §4. The records of a definition. -/

/-- A node in the making. -/
structure NodeDraft where
  /-- Its host name. -/
  hostname : Option String
  /-- What it does. -/
  kind : Option NodeKind
  /-- Whether it is chosen to initialise the cluster. -/
  initialiser : Option Bool

/-- How a node is read. -/
def nodeShape : Shape NodeDraft Node where
  names := ["hostname", "type", "initializer"]
  blank := ⟨none, none, none⟩
  set key v d :=
    if key = "hostname" then do return { d with hostname := some (← readString v) }
    else if key = "type" then do return { d with kind := some (← readKind v) }
    else if key = "initializer" then do return { d with initialiser := some (← readBool v) }
    else ignore v d
  finish missing d := do
    let hostname ← required missing "hostname" d.hostname
    let kind ← required missing "type" d.kind
    return ⟨hostname, kind, d.initialiser.getD false⟩

/-- The addresses of a cluster. -/
def networkShape : Shape Network Network where
  names := ["apiVIP", "apiVIP6", "apiHost"]
  blank := .empty
  set key v d :=
    if key = "apiVIP" then do return { d with apiVip := ← readString v }
    else if key = "apiVIP6" then do return { d with apiVip6 := ← readString v }
    else if key = "apiHost" then do return { d with apiHost := ← readString v }
    else ignore v d
  finish _ d := .ok d

/-- The nodes of a cluster. -/
def readNodes : Value → Result (List Node)
  | .array items => items.mapM nodeShape.read
  | _ => .error .malformed

/-- A cluster in the making. -/
structure ClusterDraft where
  /-- The release. -/
  version : Option String
  /-- The addresses of the API. -/
  network : Option Network
  /-- The nodes. -/
  nodes : Option (List Node)

/-- How a cluster is read. -/
def clusterShape : Shape ClusterDraft ClusterDefinition where
  names := ["version", "network", "nodes"]
  blank := ⟨none, none, none⟩
  set key v d :=
    if key = "version" then do return { d with version := some (← readString v) }
    else if key = "network" then do return { d with network := some (← networkShape.read v) }
    else if key = "nodes" then do return { d with nodes := some (← readNodes v) }
    else ignore v d
  finish missing d := do
    let version ← required missing "version" d.version
    return ⟨version, d.network.getD .empty, d.nodes.getD []⟩

/-- An image in the making. -/
structure ImageDraft where
  /-- The architecture. -/
  arch : Option Arch
  /-- The cluster. -/
  cluster : Option ClusterDefinition

/-- How an image is read. -/
def imageShape : Shape ImageDraft ImageDefinition where
  names := ["arch", "kubernetes"]
  blank := ⟨none, none⟩
  set key v d :=
    if key = "arch" then do return { d with arch := some (← readArch v) }
    else if key = "kubernetes" then do return { d with cluster := some (← clusterShape.read v) }
    else ignore v d
  finish missing d := do
    let arch ← required missing "arch" d.arch
    let cluster ← required missing "kubernetes" d.cluster
    return ⟨arch, cluster⟩

/-! ## §5. Definitions. -/

/-- The image definition that a text stands for. -/
def ofText (text : String) : Result ImageDefinition :=
  match Toml.table? text with
  | some entries => imageShape.read (.table entries)
  | none => .error .malformed

/-- The image definition in the file at a path. -/
def load (path : String) : FileText → Except Trouble ImageDefinition
  | .text s =>
      match ofText s with
      | .ok d => .ok d
      | .error fault => .error ((Trouble.ofCause (.definition fault)).within (.parsingDefinition path))
  | _ => .error ((Trouble.ofCause .refused).within (.readingDefinition path))

end ClusterBoot.Definition
