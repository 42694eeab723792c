/-
  ClusterBoot.Yaml.Lexer
  ────────────────────────────────
  **FROM THE TEXT TO ITS TOKENS.**

  Two things in a stream are only known late.  That a node was the key of a
  mapping shows at the colon after it, so the lexer remembers for every open
  collection where the last possible key began (`PendingKey`), and puts the
  key token there once the colon comes; such a key must be on one line and
  not too long.  That an indented collection ended shows at the next line
  that is indented less, so the lexer keeps the stack of indentations.

  `step?` reads one token and consumes at least one character of the text;
  `tokens?` is its repetition up to the end.
-/
import ClusterBoot.Yaml.Block
import ClusterBoot.Yaml.Tag
import ClusterBoot.Yaml.Token

namespace ClusterBoot.Yaml

/-! ## §1. The state between two tokens. -/

/-- Where a node began that may turn out to be a key. -/
structure PendingKey where
  /-- Whether it still may. -/
  possible : Bool
  /-- Whether the text is wrong if it does not. -/
  required : Bool
  /-- How many tokens precede it. -/
  position : Nat
  /-- Where it stands. -/
  mark : Mark
  deriving Repr, DecidableEq

/-- No node yet. -/
def PendingKey.none : PendingKey := ⟨false, false, 0, Mark.start⟩

/-- Reading a stream, between two tokens. -/
structure Lexer where
  /-- What is still to be read. -/
  cursor : Cursor
  /-- The tokens so far, newest first. -/
  tokens : List Token
  /-- The possible key of the innermost collection. -/
  pending : PendingKey
  /-- Those of the flow collections around it, innermost first. -/
  outerPending : List PendingKey
  /-- Whether a key may begin here. -/
  keyAllowed : Bool
  /-- The indentation of the innermost block collection, −1 if there is
  none. -/
  indent : Int
  /-- Those around it, innermost first. -/
  outerIndents : List Int
  /-- How many flow collections are open. -/
  flowDepth : Nat
  /-- Where a colon needs no white space after it, because a quoted key just
  ended. -/
  adjacentAt : Nat
  deriving Repr

namespace Lexer

/-- At the start of a text. -/
def start (s : String) : Lexer :=
  { cursor := Cursor.ofText s
    tokens := []
    pending := .none
    outerPending := []
    keyAllowed := true
    indent := -1
    outerIndents := []
    flowDepth := 0
    adjacentAt := 0 }

/-- Whether a flow collection is open. -/
def inFlow (l : Lexer) : Bool :=
  l.flowDepth ≠ 0

/-- Add a token. -/
def emit (t : Token) (l : Lexer) : Lexer :=
  { l with tokens := t :: l.tokens }

/-- Put a token before which `position` tokens stand. -/
def emitAt (position : Nat) (t : Token) (l : Lexer) : Lexer :=
  let after := l.tokens.length - position
  { l with tokens := l.tokens.take after ++ t :: l.tokens.drop after }

/-- Move to another place. -/
def moveTo (c : Cursor) (l : Lexer) : Lexer :=
  { l with cursor := c }

/-- Move over some characters. -/
def skip (n : Nat) (l : Lexer) : Lexer :=
  l.moveTo (l.cursor.drop n)

/-- Allow or forbid a key to begin here. -/
def allowKey (allowed : Bool) (l : Lexer) : Lexer :=
  { l with keyAllowed := allowed }

/-! ## §2. Indentation. -/

/-- End the collections that are indented deeper than the column. -/
def unrollFrom (column : Int) (indent : Int) : List Int → List Token → Int × List Int × List Token
  | [], tokens => (indent, [], tokens)
  | i :: is, tokens =>
      if column < indent then unrollFrom column i is (Token.blockEnd :: tokens)
      else (indent, i :: is, tokens)

/-- End the block collections that are indented deeper than the column.
Inside flow collections indentation does not count. -/
def unroll (column : Int) (l : Lexer) : Lexer :=
  if l.inFlow then l
  else
    let (indent, outer, tokens) := unrollFrom column l.indent l.outerIndents l.tokens
    { l with indent := indent, outerIndents := outer, tokens := tokens }

/-- Begin a block collection at the column, unless it is open already. -/
def roll (column : Nat) (t : Token) (position : Nat) (l : Lexer) : Lexer :=
  if l.inFlow || decide ((column : Int) ≤ l.indent) then l
  else
    { l.emitAt position t with indent := column, outerIndents := l.indent :: l.outerIndents }

/-! ## §3. Possible keys. -/

/-- How far a key may reach, in characters. -/
def keyReach : Nat := 1024

/-- A possible key that is now too far away is none; a required one is an
error. -/
def expire? (now : Mark) (k : PendingKey) : Option PendingKey :=
  if k.possible && (decide (k.mark.line < now.line) || decide (k.mark.index + keyReach < now.index)) then
    if k.required then none else some { k with possible := false }
  else some k

/-- Drop the keys that are too far away. -/
def expireKeys? (l : Lexer) : Option Lexer := do
  let pending ← expire? l.cursor.mark l.pending
  let outer ← l.outerPending.mapM (expire? l.cursor.mark)
  return { l with pending := pending, outerPending := outer }

/-- The innermost possible key is none. -/
def dropKey? (l : Lexer) : Option Lexer :=
  if l.pending.possible && l.pending.required then none
  else some { l with pending := { l.pending with possible := false } }

/-- A node begins here, and may turn out to be a key. -/
def saveKey? (l : Lexer) : Option Lexer :=
  if l.keyAllowed then do
    let l ← l.dropKey?
    return { l with pending :=
      { possible := true
        required := l.inFlow && decide (l.indent = (l.cursor.mark.column : Int))
        position := l.tokens.length
        mark := l.cursor.mark } }
  else some l

/-! ## §4. Between tokens. -/

/-- Skip spaces, comments and line breaks, and tabs where no key may begin.
After a line break outside flow collections a key may begin. -/
def skipGapFrom (inFlow : Bool) (comment allowed : Bool) (m : Mark) : List Char → Bool × Cursor
  | [] => (allowed, ⟨[], m⟩)
  | c :: r =>
      if isBreak c then skipGapFrom inFlow false (allowed || !inFlow) (m.after c) r
      else if comment || c = ' ' || (c = '\t' && (inFlow || !allowed)) then
        skipGapFrom inFlow comment allowed (m.after c) r
      else if c = '#' then skipGapFrom inFlow true allowed (m.after c) r
      else (allowed, ⟨c :: r, m⟩)

/-- Move to the next token. -/
def skipGap (l : Lexer) : Lexer :=
  let (allowed, cursor) := skipGapFrom l.inFlow false l.keyAllowed l.cursor.mark l.cursor.rest
  { l with keyAllowed := allowed, cursor := cursor }

/-! ## §5. One token. -/

/-- A token that stands for itself and between whose neighbours no key
reaches across: directives and document marks. -/
def readSeparator? (t : Token) (stop : Cursor) (l : Lexer) : Option Lexer := do
  let l ← (l.unroll (-1)).dropKey?
  return ((l.allowKey false).moveTo stop).emit t

/-- An opening bracket or brace. -/
def openFlow? (t : Token) (l : Lexer) : Option Lexer := do
  let l ← l.saveKey?
  if l.flowDepth < 255 then
    let l := { l with
      pending := .none
      outerPending := l.pending :: l.outerPending
      flowDepth := l.flowDepth + 1 }
    return ((l.allowKey true).skip 1).emit t
  else none

/-- A closing bracket or brace. -/
def closeFlow? (t : Token) (l : Lexer) : Option Lexer := do
  let l ← l.dropKey?
  let l := match l.outerPending with
    | k :: ks => { l with pending := k, outerPending := ks, flowDepth := l.flowDepth - 1 }
    | [] => l
  return ((l.allowKey false).skip 1).emit t

/-- A comma inside a flow collection. -/
def readFlowEntry? (l : Lexer) : Option Lexer := do
  let l ← l.dropKey?
  return ((l.allowKey true).skip 1).emit .flowEntry

/-- The hyphen before an item. -/
def readBlockEntry? (l : Lexer) : Option Lexer := do
  if l.inFlow || !l.keyAllowed then none
  else
    let l ← (l.roll l.cursor.mark.column .blockSequenceStart l.tokens.length).dropKey?
    return ((l.allowKey true).skip 1).emit .blockEntry

/-- A question mark before a key. -/
def readKey? (l : Lexer) : Option Lexer := do
  if !l.inFlow && !l.keyAllowed then none
  else
    let l ← (l.roll l.cursor.mark.column .blockMappingStart l.tokens.length).dropKey?
    return ((l.allowKey (!l.inFlow)).skip 1).emit .key

/-- The colon before a value. -/
def readValue? (l : Lexer) : Option Lexer :=
  let k := l.pending
  if k.possible then
    -- the node before the colon was a key: say so before its tokens
    let l := (l.emitAt k.position .key).roll k.mark.column .blockMappingStart k.position
    let l := { l with pending := { k with possible := false } }
    some (((l.allowKey false).skip 1).emit .value)
  else if !l.inFlow && !l.keyAllowed then none
  else
    let l := l.roll l.cursor.mark.column .blockMappingStart l.tokens.length
    some (((l.allowKey (!l.inFlow)).skip 1).emit .value)

/-- An anchor or an alias. -/
def readNamed? (make : String → Token) (l : Lexer) : Option Lexer := do
  let l ← l.saveKey?
  let (name, stop) ← readName l.cursor
  return ((l.allowKey false).moveTo stop).emit (make name)

/-- A tag. -/
def readTagToken? (l : Lexer) : Option Lexer := do
  let l ← l.saveKey?
  let (handle, suffix, stop) ← readTag l.cursor
  return ((l.allowKey false).moveTo stop).emit (.tag handle suffix)

/-- A block scalar; a key may begin after it. -/
def readBlockScalar? (folded : Bool) (l : Lexer) : Option Lexer := do
  let l ← l.saveKey?
  let (text, stop) ← readBlock folded l.indent l.cursor
  return ((l.allowKey true).moveTo stop).emit (.scalar false text)

/-- A quoted scalar, single or double. -/
def readQuoted? (double : Bool) (l : Lexer) : Option Lexer := do
  let l ← l.saveKey?
  let body := l.cursor.drop 1
  let (f, stop) ←
    if double then doubleFrom .any .empty body.mark body.rest
    else singleFrom .empty body.mark body.rest
  let l := { l with adjacentAt := stop.mark.index }
  return ((l.allowKey false).moveTo stop).emit (.scalar false f.toText)

/-- A plain scalar; a key may begin after it if it ended at a line break. -/
def readPlain? (l : Lexer) : Option Lexer := do
  let l ← l.saveKey?
  let (f, stop) ← plainFrom (l.indent + 1) l.inFlow .empty l.cursor.mark l.cursor.rest
  return ((l.allowKey f.broken).moveTo stop).emit (.scalar true f.toText)

/-- Whether a colon here comes before a value: white space follows it, or
inside a flow collection an indicator does, or a quoted key stands right
before it. -/
def isValueMark (l : Lexer) (r : List Char) : Bool :=
  endsWord r || (l.inFlow && ((match r with
    | d :: _ => isFlow d
    | [] => false) || l.cursor.mark.index = l.adjacentAt))

/-- Read the token that begins with `c`, before `r`. -/
def readToken? (c : Char) (r : List Char) (l : Lexer) : Option Lexer :=
  if c = '[' then l.openFlow? .flowSequenceStart
  else if c = '\x7b' then l.openFlow? .flowMappingStart
  else if c = ']' then l.closeFlow? .flowSequenceEnd
  else if c = '\x7d' then l.closeFlow? .flowMappingEnd
  else if c = ',' then l.readFlowEntry?
  else if c = '-' && endsWord r then l.readBlockEntry?
  else if c = '?' && endsWord r then l.readKey?
  else if c = ':' && l.isValueMark r then l.readValue?
  else if c = '*' then l.readNamed? .alias
  else if c = '&' then l.readNamed? .anchor
  else if c = '!' then l.readTagToken?
  else if c = '|' && !l.inFlow then l.readBlockScalar? false
  else if c = '>' && !l.inFlow then l.readBlockScalar? true
  else if c = '\'' then l.readQuoted? false
  else if c = '"' then l.readQuoted? true
  else if c = '%' || c = '@' || c = '\x60' then none
  else l.readPlain?

/-- Read one token, or find that the text has ended. -/
def step? (l : Lexer) : Option (Lexer × Bool) := do
  let l ← l.skipGap.expireKeys?
  let l := l.unroll l.cursor.mark.column
  match l.cursor.rest with
  | [] => do
      -- the end of the text ends all block collections
      let l ← (l.unroll (-1)).dropKey?
      return (l, true)
  | c :: r =>
      let next ←
        if c = '%' && l.cursor.mark.column = 0 then do
          l.readSeparator? .directive (← readDirective l.cursor)
        else if atDocumentMark l.cursor.mark (c :: r) then
          l.readSeparator? (if c = '-' then .documentStart else .documentEnd) (l.cursor.drop 3)
        else l.readToken? c r
      return (next, false)

/-- Read the tokens up to the end of the text. -/
def run? : (fuel : Nat) → Lexer → Option Lexer
  | 0, _ => none
  | n + 1, l => do
      let (l, ended) ← l.step?
      if ended then return l else run? n l

end Lexer

/-- The tokens of a text, if all of it can be read.  Each step but the last
consumes a character, so their number bounds the steps. -/
def tokens? (s : String) : Option (List Token) :=
  let l := Lexer.start s
  (l.run? (l.cursor.rest.length + 1)).map fun l => l.tokens.reverse

end ClusterBoot.Yaml
