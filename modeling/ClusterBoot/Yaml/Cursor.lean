/-
  ClusterBoot.Yaml.Cursor
  ────────────────────────────────
  **A PLACE IN THE TEXT OF A DOCUMENT.**

  A cursor is the text that is still to be read and the mark of its first
  character.  A line feed starts a line; a carriage return alone ends a line
  for the grammar but is not counted as one.  The text ends at its first NUL,
  and a carriage return before a line feed is not part of it.
-/

namespace ClusterBoot.Yaml

/-! ## §1. Classes of characters. -/

/-- A line break. -/
def isBreak (c : Char) : Bool :=
  c = '\n' || c = '\r'

/-- A space or a tab. -/
def isBlank (c : Char) : Bool :=
  c = ' ' || c = '\t'

/-- A space, a tab or a line break. -/
def isGap (c : Char) : Bool :=
  isBlank c || isBreak c

/-- A letter, digit, underscore or hyphen: what names are made of. -/
def isWordChar (c : Char) : Bool :=
  let n := c.toNat
  (48 ≤ n && n ≤ 57) || (65 ≤ n && n ≤ 90) || (97 ≤ n && n ≤ 122) || c = '_' || c = '-'

/-- An indicator of the flow collections. -/
def isFlow (c : Char) : Bool :=
  c = ',' || c = '[' || c = ']' || c = '\x7b' || c = '\x7d'

/-- Whether the text is at its end or begins with a space, a tab or a line
break. -/
def endsWord : List Char → Bool
  | [] => true
  | c :: _ => isGap c

/-- Whether the text is at its end or begins with a line break. -/
def endsLine : List Char → Bool
  | [] => true
  | c :: _ => isBreak c

/-! ## §2. Marks. -/

/-- Where a character stands: its number, and its line and column. -/
structure Mark where
  /-- How many characters precede. -/
  index : Nat
  /-- The line, from 1. -/
  line : Nat
  /-- The column, from 0. -/
  column : Nat
  deriving Repr, DecidableEq

/-- The mark of the first character. -/
def Mark.start : Mark := ⟨0, 1, 0⟩

/-- The mark after one character. -/
def Mark.after (m : Mark) (c : Char) : Mark :=
  if c = '\n' then ⟨m.index + 1, m.line + 1, 0⟩ else ⟨m.index + 1, m.line, m.column + 1⟩

/-- The mark after some characters. -/
def Mark.past (m : Mark) (cs : List Char) : Mark :=
  cs.foldl Mark.after m

/-! ## §3. Cursors. -/

/-- The text still to be read, and the mark of its first character. -/
structure Cursor where
  /-- What is still to be read. -/
  rest : List Char
  /-- Where it starts. -/
  mark : Mark
  deriving Repr, DecidableEq

namespace Cursor

/-- The text with each carriage return before a line feed dropped. -/
def dropReturns : List Char → List Char
  | [] => []
  | [c] => [c]
  | c :: d :: r =>
      if c = '\r' && d = '\n' then dropReturns (d :: r) else c :: dropReturns (d :: r)

/-- The cursor at the start of a text. -/
def ofText (s : String) : Cursor :=
  ⟨dropReturns (s.toList.takeWhile (· ≠ '\x00')), Mark.start⟩

/-- The cursor after `n` characters. -/
def drop (n : Nat) (c : Cursor) : Cursor :=
  ⟨c.rest.drop n, c.mark.past (c.rest.take n)⟩

/-- The cursor after the characters that satisfy `p`. -/
def dropWhile (p : Char → Bool) (c : Cursor) : Cursor :=
  ⟨c.rest.dropWhile p, c.mark.past (c.rest.takeWhile p)⟩

/-- The character at the cursor. -/
def peek (c : Cursor) : Option Char :=
  c.rest.head?

/-- The cursor after a comment, if there is one, up to the end of its line. -/
def dropComment (c : Cursor) : Cursor :=
  if c.peek = some '#' then c.dropWhile fun d => !isBreak d else c

/-- The cursor after blanks and a comment, if a line ends there. -/
def endOfLine? (c : Cursor) : Option Cursor :=
  let c := (c.dropWhile isBlank).dropComment
  if endsLine c.rest then some c else none

/-- The cursor after one line break, if there is one. -/
def dropBreak (c : Cursor) : Cursor :=
  match c.peek with
  | some d => if isBreak d then c.drop 1 else c
  | none => c

end Cursor

/-- Whether a document starts or ends here: three hyphens or three points in
the first column, and no more of a word. -/
def atDocumentMark (m : Mark) (cs : List Char) : Bool :=
  m.column = 0 &&
    match cs with
    | '-' :: '-' :: '-' :: r => endsWord r
    | '.' :: '.' :: '.' :: r => endsWord r
    | _ => false

end ClusterBoot.Yaml
