/-
  ClusterBoot.Yaml.Token
  ────────────────────────────────
  **THE TOKENS OF A DOCUMENT STREAM.**

  Indentation is made explicit: a block collection has a token where it
  begins and one where it ends.  Anchors, aliases and tags are the
  properties of nodes.
-/
import ClusterBoot.Yaml.Cursor

namespace ClusterBoot.Yaml

/-! ## §1. Tokens. -/

/-- A token of the stream. -/
inductive Token where
  /-- A directive; no directive changes what a document means. -/
  | directive
  /-- Three hyphens: a document begins. -/
  | documentStart
  /-- Three points: a document ends. -/
  | documentEnd
  /-- An indented sequence begins. -/
  | blockSequenceStart
  /-- An indented mapping begins. -/
  | blockMappingStart
  /-- An indented collection ends. -/
  | blockEnd
  /-- An opening bracket. -/
  | flowSequenceStart
  /-- A closing bracket. -/
  | flowSequenceEnd
  /-- An opening brace. -/
  | flowMappingStart
  /-- A closing brace. -/
  | flowMappingEnd
  /-- The hyphen before an item. -/
  | blockEntry
  /-- A comma. -/
  | flowEntry
  /-- A key follows. -/
  | key
  /-- A value follows. -/
  | value
  /-- The value of an anchor. -/
  | alias (name : String)
  /-- The node that follows gets a name. -/
  | anchor (name : String)
  /-- The tag of the node that follows. -/
  | tag (handle suffix : String)
  /-- A scalar, plain or not. -/
  | scalar (plain : Bool) (text : String)
  deriving Repr, DecidableEq

/-! ## §2. Anchors and aliases. -/

/-- Whether a name may end here. -/
def endsName : List Char → Bool
  | [] => true
  | c :: _ => isGap c || [ '?', ':', ',', ']', '\x7d', '%', '@', '\x60'].contains c

/-- Read the name after the mark of an anchor or an alias. -/
def readName (start : Cursor) : Option (String × Cursor) :=
  let start := start.drop 1
  let name := start.rest.takeWhile isWordChar
  let stop := start.dropWhile isWordChar
  if name.isEmpty || !endsName stop.rest then none else some (String.ofList name, stop)

end ClusterBoot.Yaml
