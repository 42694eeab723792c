/-
  ClusterBoot.Yaml.Stream
  ────────────────────────────────
  **FROM THE TOKENS TO THE DOCUMENTS.**

  A stream holds documents one after the other.  A document is a node: an
  alias, a scalar, or a collection of nodes.  Where a node is missing there
  is null.  An anchor names the node that follows it from the moment the
  node begins, so an alias inside its own anchor refers to a node that has
  no value yet: it is `bad`.

  The parsing functions take fuel; every second call at the latest consumes a
  token, so `fuelFor` is enough for a whole stream.
-/
import ClusterBoot.Yaml.Lexer
import ClusterBoot.Yaml.Scalar

namespace ClusterBoot.Yaml

/-! ## §1. The state of a reader. -/

/-- What is left of a stream, and the anchors met so far. -/
structure Reader where
  /-- The tokens still to be read. -/
  tokens : List Token
  /-- The number of the last node with each name, newest first. -/
  names : List (String × Nat)
  /-- The values of the numbered nodes that are complete. -/
  values : List (Nat × Value)
  /-- The number for the next named node. -/
  next : Nat

namespace Reader

/-- The next token. -/
def peek (r : Reader) : Option Token :=
  r.tokens.head?

/-- The reader after the next token. -/
def skip (r : Reader) : Reader :=
  { r with tokens := r.tokens.drop 1 }

/-- Whether the next token satisfies `p`; the end of the stream does not. -/
def at? (p : Token → Bool) (r : Reader) : Bool :=
  match r.peek with
  | some t => p t
  | none => false

/-- Give a name to the node that begins here. -/
def name (s : String) (r : Reader) : Reader :=
  { r with names := (s, r.next) :: r.names, next := r.next + 1 }

/-- The number of the node that was named last. -/
def lastNamed (r : Reader) : Nat :=
  r.next - 1

/-- Set the value of a node, if it has a number. -/
def define (number : Option Nat) (v : Value) (r : Reader) : Reader :=
  match number with
  | some i => { r with values := (i, v) :: r.values }
  | none => r

/-- The value of an alias; an error if no node has the name. -/
def alias? (s : String) (r : Reader) : Option Value :=
  (r.names.lookup s).map fun i => (r.values.lookup i).getD .bad

end Reader

/-! ## §2. Properties of nodes. -/

/-- The number and the tag of a node. -/
structure Properties where
  /-- The number, if it has a name. -/
  number : Option Nat
  /-- The handle and suffix of its tag. -/
  tag : Option (String × String)

/-- Read the properties of a node: an anchor and a tag, in any order. -/
def readProperties (r : Reader) : Properties × Reader :=
  match r.peek with
  | some (.anchor s) =>
      let r := r.skip.name s
      match r.peek with
      | some (.tag handle suffix) => (⟨some r.lastNamed, some (handle, suffix)⟩, r.skip)
      | _ => (⟨some r.lastNamed, none⟩, r)
  | some (.tag handle suffix) =>
      let r := r.skip
      match r.peek with
      | some (.anchor s) =>
          let r := r.skip.name s
          (⟨some r.lastNamed, some (handle, suffix)⟩, r)
      | _ => (⟨none, some (handle, suffix)⟩, r)
  | _ => (⟨none, none⟩, r)

/-- The entries that the nodes of a mapping make, keys and values in turn.  A
key that is `bad` counts as no key yet, so the node after it takes its
place. -/
def pairNodes (key : Value) : List Value → List Entry
  | [] => []
  | v :: vs =>
      match key with
      | .bad => pairNodes v vs
      | key => (key, v) :: pairNodes .bad vs

/-- The mapping that a list of nodes makes. -/
def mappingOfNodes (nodes : List Value) : Value :=
  .ofEntries (pairNodes .bad nodes)

/-! ## §3. Where a node may be missing. -/

/-- After a key or a value mark of an indented mapping. -/
def endsBlockPart : Token → Bool
  | .key | .value | .blockEnd => true
  | _ => false

/-- After the hyphen of an indented item. -/
def endsBlockItem : Token → Bool
  | .blockEntry | .blockEnd => true
  | _ => false

/-- After the hyphen of an item that is not indented. -/
def endsFlatItem : Token → Bool
  | .blockEntry | .key | .value | .blockEnd => true
  | _ => false

/-- After the key mark of a pair in braces. -/
def endsFlowKey : Token → Bool
  | .value | .flowEntry | .flowMappingEnd => true
  | _ => false

/-- After the value mark of a pair in braces. -/
def endsFlowValue : Token → Bool
  | .flowEntry | .flowMappingEnd => true
  | _ => false

/-- After the key mark of a pair in brackets. -/
def endsPairKey : Token → Bool
  | .value | .flowEntry | .flowSequenceEnd => true
  | _ => false

/-- After the value mark of a pair in brackets. -/
def endsPairValue : Token → Bool
  | .flowEntry | .flowSequenceEnd => true
  | _ => false

/-- At the start of a document: nothing is in it. -/
def endsContent : Token → Bool
  | .directive | .documentStart | .documentEnd => true
  | _ => false

/-! ## §4. Nodes. -/

mutual

/-- Read a node.  `block` allows indented collections, `flat` a sequence that
is not indented deeper than the mapping around it. -/
def readNode (block flat : Bool) : (fuel : Nat) → Reader → Option (Value × Reader)
  | 0, _ => none
  | n + 1, r =>
      match r.peek with
      | some (.alias s) => (r.alias? s).map fun v => (v, r.skip)
      | _ =>
          let (props, r) := readProperties r
          let finish := fun (v, r) => (v, Reader.define props.number v r)
          match r.peek with
          | some (.scalar plain s) => some (finish (.ofScalar plain props.tag s, r.skip))
          | some .blockEntry =>
              if flat then (readFlatItems n r).map fun (vs, r) => finish (.list vs, r)
              else missing props r
          | some .flowSequenceStart =>
              (readFlowItems true n r.skip).map fun (vs, r) => finish (.list vs, r)
          | some .flowMappingStart =>
              (readFlowParts true n r.skip).map fun (vs, r) => finish (mappingOfNodes vs, r)
          | some .blockSequenceStart =>
              if block then (readBlockItems n r.skip).map fun (vs, r) => finish (.list vs, r)
              else missing props r
          | some .blockMappingStart =>
              if block then
                (readBlockParts n r.skip).map fun (vs, r) => finish (mappingOfNodes vs, r)
              else missing props r
          | _ => missing props r

/-- A node that has properties only is an empty plain scalar. -/
def missing (props : Properties) (r : Reader) : Option (Value × Reader) :=
  if props.number.isSome || props.tag.isSome then
    let v := Value.ofScalar true props.tag ""
    some (v, r.define props.number v)
  else none

/-- Read a node unless the next token satisfies `ends`: then it is null. -/
def readNodeUnless (ends : Token → Bool) (block flat : Bool) :
    (fuel : Nat) → Reader → Option (Value × Reader)
  | 0, _ => none
  | n + 1, r => if r.at? ends then some (.null, r) else readNode block flat n r

/-- Read the items of an indented sequence. -/
def readBlockItems : (fuel : Nat) → Reader → Option (List Value × Reader)
  | 0, _ => none
  | n + 1, r =>
      match r.peek with
      | some .blockEnd => some ([], r.skip)
      | some .blockEntry => do
          let (v, r) ← readNodeUnless endsBlockItem true false n r.skip
          let (vs, r) ← readBlockItems n r
          return (v :: vs, r)
      | _ => none

/-- Read the items of a sequence that is not indented: it ends at the first
other token, which stays. -/
def readFlatItems : (fuel : Nat) → Reader → Option (List Value × Reader)
  | 0, _ => none
  | n + 1, r =>
      match r.peek with
      | some .blockEntry => do
          let (v, r) ← readNodeUnless endsFlatItem true false n r.skip
          let (vs, r) ← readFlatItems n r
          return (v :: vs, r)
      | _ => some ([], r)

/-- Read the keys and values of an indented mapping, in turn. -/
def readBlockParts : (fuel : Nat) → Reader → Option (List Value × Reader)
  | 0, _ => none
  | n + 1, r =>
      match r.peek with
      | some .blockEnd => some ([], r.skip)
      | some .key => do
          let (k, r) ← readNodeUnless endsBlockPart true true n r.skip
          let (v, r) ← readBlockValue n r
          let (vs, r) ← readBlockParts n r
          return (k :: v :: vs, r)
      | some .value => do
          let (v, r) ← readBlockValue n r
          let (vs, r) ← readBlockParts n r
          return (.null :: v :: vs, r)
      | _ => none

/-- Read the value of an entry of an indented mapping; there may be none. -/
def readBlockValue : (fuel : Nat) → Reader → Option (Value × Reader)
  | 0, _ => none
  | n + 1, r =>
      match r.peek with
      | some .value => readNodeUnless endsBlockPart true true n r.skip
      | _ => some (.null, r)

/-- Read the items of a sequence in brackets, after a comma unless the item
is the first. -/
def readFlowItems (first : Bool) : (fuel : Nat) → Reader → Option (List Value × Reader)
  | 0, _ => none
  | n + 1, r =>
      match r.peek with
      | some .flowSequenceEnd => some ([], r.skip)
      | t =>
          if first then readFlowItem n r
          else if t = some .flowEntry then readFlowItem n r.skip
          else none

/-- Read an item of a sequence in brackets and those after it.  An item may
be a single pair. -/
def readFlowItem : (fuel : Nat) → Reader → Option (List Value × Reader)
  | 0, _ => none
  | n + 1, r =>
      match r.peek with
      | some .flowSequenceEnd => some ([], r.skip)
      | some .key => do
          let r := r.skip
          let (k, r) ←
            if r.at? endsPairKey then some (.null, r.skip) else readNode false false n r
          let (v, r) ←
            match r.peek with
            | some .value => readNodeUnless endsPairValue false false n r.skip
            | _ => some (.null, r)
          let (vs, r) ← readFlowItems false n r
          return (mappingOfNodes [k, v] :: vs, r)
      | _ => do
          let (v, r) ← readNode false false n r
          let (vs, r) ← readFlowItems false n r
          return (v :: vs, r)

/-- Read the keys and values of a mapping in braces, in turn, after a comma
unless the entry is the first. -/
def readFlowParts (first : Bool) : (fuel : Nat) → Reader → Option (List Value × Reader)
  | 0, _ => none
  | n + 1, r =>
      match r.peek with
      | some .flowMappingEnd => some ([], r.skip)
      | t =>
          if first then readFlowPart n r
          else if t = some .flowEntry then readFlowPart n r.skip
          else none

/-- Read an entry of a mapping in braces and those after it.  A node without
a key mark is a key whose value is null. -/
def readFlowPart : (fuel : Nat) → Reader → Option (List Value × Reader)
  | 0, _ => none
  | n + 1, r =>
      match r.peek with
      | some .flowMappingEnd => some ([], r.skip)
      | some .key => do
          let (k, r) ← readNodeUnless endsFlowKey false false n r.skip
          let (v, r) ← readFlowValue n r
          let (vs, r) ← readFlowParts false n r
          return (k :: v :: vs, r)
      | some .value => do
          let (v, r) ← readFlowValue n r
          let (vs, r) ← readFlowParts false n r
          return (.null :: v :: vs, r)
      | _ => do
          let (k, r) ← readNode false false n r
          let (vs, r) ← readFlowParts false n r
          return (k :: .null :: vs, r)

/-- Read the value of an entry of a mapping in braces; there may be none. -/
def readFlowValue : (fuel : Nat) → Reader → Option (Value × Reader)
  | 0, _ => none
  | n + 1, r =>
      match r.peek with
      | some .value => readNodeUnless endsFlowValue false false n r.skip
      | _ => some (.null, r)

end

/-! ## §5. Documents. -/

/-- The tokens after the directives at their start. -/
def skipDirectives (ts : List Token) : List Token :=
  ts.dropWhile (· = .directive)

/-- The tokens after the document ends at their start. -/
def skipDocumentEnds (ts : List Token) : List Token :=
  ts.dropWhile (· = .documentEnd)

/-- Enough fuel for reading a node from so many tokens. -/
def fuelFor (ts : List Token) : Nat :=
  3 * ts.length + 8

/-- Read the content of a document that began with a document start. -/
def readContent (ts : List Token) : Option (Value × List Token) :=
  match ts with
  | [] => some (.null, [])
  | t :: _ =>
      if endsContent t then some (.null, ts)
      else (readNode true false (fuelFor ts) ⟨ts, [], [], 1⟩).map fun (v, r) => (v, r.tokens)

/-- Read one document.  The first may do without a document start. -/
def readDocument (first : Bool) (ts : List Token) : Option (Value × List Token) :=
  match ts with
  | .directive :: _ | .documentStart :: _ =>
      match skipDirectives ts with
      | .documentStart :: r => readContent r
      | _ => none
  | ts =>
      if first then
        (readNode true false (fuelFor ts) ⟨ts, [], [], 1⟩).map fun (v, r) => (v, r.tokens)
      else none

/-- Read all documents.  The document end after one belongs to it, and more
of them do not count. -/
def readDocuments (first : Bool) : (fuel : Nat) → List Token → Option (List Value)
  | 0, _ => none
  | n + 1, ts =>
      match if first then ts else skipDocumentEnds ts with
      | [] => some []
      | ts => do
          let (v, ts) ← readDocument first ts
          let vs ← readDocuments false n ts
          return v :: vs

/-- The documents of a text, if it is well formed. -/
def documents? (s : String) : Option (List Value) := do
  let ts ← tokens? s
  readDocuments true (ts.length + 1) ts

end ClusterBoot.Yaml
