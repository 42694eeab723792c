/-
  ClusterBoot.Yaml.Folded
  ────────────────────────────────
  **PLAIN AND QUOTED SCALARS.**

  These scalars may run over several lines.  White space inside a line is
  kept; white space around a line break is dropped, one break between two
  lines becomes a space, and of more breaks the first is dropped and the
  others are kept.  A `Folding` is such a text in the making: what was read,
  and the gap of white space after it, which counts only once another
  character of the scalar follows.
-/
import ClusterBoot.Text.Numeral
import ClusterBoot.Yaml.Cursor

namespace ClusterBoot.Yaml

/-! ## §1. Folding. -/

/-- A scalar in the making. -/
structure Folding where
  /-- What was read, newest first. -/
  text : List Char
  /-- The spaces and tabs after it, newest first. -/
  spaces : List Char
  /-- Whether the gap holds a line break. -/
  broken : Bool
  /-- Whether the first break of the gap stands for a space; an escaped break
  does not. -/
  spaced : Bool
  /-- How many more breaks there are. -/
  more : Nat
  deriving Repr, DecidableEq

namespace Folding

/-- Nothing read yet. -/
def empty : Folding := ⟨[], [], false, false, 0⟩

/-- Widen the gap by one character.  After a break, blanks are dropped. -/
def widen (f : Folding) (c : Char) : Folding :=
  if isBreak c then
    if f.broken then { f with more := f.more + 1 }
    else { f with spaces := [], broken := true, spaced := true }
  else if f.broken then f
  else { f with spaces := c :: f.spaces }

/-- What the gap stands for, newest first. -/
def gap (f : Folding) : List Char :=
  if f.broken then
    if f.spaced && f.more = 0 then [' '] else List.replicate f.more '\n'
  else f.spaces

/-- The scalar with its gap filled in. -/
def close (f : Folding) : Folding :=
  ⟨f.gap ++ f.text, [], false, false, 0⟩

/-- The scalar with a further character. -/
def push (f : Folding) (c : Char) : Folding :=
  { f.close with text := c :: f.close.text }

/-- The scalar after an escaped line break, which stands for nothing. -/
def splice (f : Folding) : Folding :=
  { f.close with broken := true }

/-- Whether a gap is open. -/
def inGap (f : Folding) : Bool :=
  f.broken || !f.spaces.isEmpty

/-- The text that was read. -/
def toText (f : Folding) : String :=
  String.ofList f.text.reverse

end Folding

/-! ## §2. Plain scalars. -/

/-- Whether an indicator ends a plain scalar: a colon before white space, and
inside a flow collection any of its indicators, also after a colon. -/
def endsPlain (inFlow : Bool) : List Char → Bool
  | [] => true
  | ':' :: r =>
      endsWord r || (inFlow && match r with
        | d :: _ => isFlow d
        | [] => false)
  | c :: _ => inFlow && isFlow c

/-- Read a plain scalar on.  Outside flow collections it ends at a line that
is not indented by `indent`; a comment and a document mark end it too. -/
def plainFrom (indent : Int) (inFlow : Bool) (f : Folding) (m : Mark) :
    List Char → Option (Folding × Cursor)
  | [] => some (f, ⟨[], m⟩)
  | c :: r =>
      if isGap c then
        -- a tab cannot stand for the indentation of a further line
        if c = '\t' && f.broken && decide ((m.column : Int) < indent) then none
        else plainFrom indent inFlow (f.widen c) (m.after c) r
      else if f.inGap &&
          ((!inFlow && decide ((m.column : Int) < indent)) || atDocumentMark m (c :: r) || c = '#') then
        some (f, ⟨c :: r, m⟩)
      else if endsPlain inFlow (c :: r) then some (f, ⟨c :: r, m⟩)
      else plainFrom indent inFlow (f.push c) (m.after c) r

/-! ## §3. Single-quoted scalars. -/

/-- Read a single-quoted scalar on, up to and with its closing quote.  A
quote inside is written twice. -/
def singleFrom (f : Folding) (m : Mark) : List Char → Option (Folding × Cursor)
  | [] => none
  | '\'' :: '\'' :: r => singleFrom (f.push '\'') ((m.after '\'').after '\'') r
  | '\'' :: r => some (f.close, ⟨r, m.after '\''⟩)
  | c :: r =>
      if isGap c then singleFrom (f.widen c) (m.after c) r
      else if atDocumentMark m (c :: r) then none
      else singleFrom (f.push c) (m.after c) r

/-! ## §4. Double-quoted scalars. -/

/-- What an escape letter stands for. -/
def escaped? (c : Char) : Option Char :=
  match c with
  | '0' => some '\x00'
  | 'a' => some '\x07'
  | 'b' => some '\x08'
  | 't' | '\t' => some '\t'
  | 'n' => some '\n'
  | 'v' => some '\x0b'
  | 'f' => some '\x0c'
  | 'r' => some '\r'
  | 'e' => some '\x1b'
  | ' ' => some ' '
  | '"' => some '"'
  | '\'' => some '\''
  | '\\' => some '\\'
  | 'N' => some '\u0085'
  | '_' => some '\u00a0'
  | 'L' => some '\u2028'
  | 'P' => some '\u2029'
  | _ => none

/-- How many hexadecimal digits follow an escape letter. -/
def escapeDigits? (c : Char) : Option Nat :=
  match c with
  | 'x' => some 2
  | 'u' => some 4
  | 'U' => some 8
  | _ => none

/-- The character with a code point, if it has one. -/
def charOfCode? (n : Nat) : Option Char :=
  if n < 0xD800 || (0xDFFF < n && n < 0x110000) then some (Char.ofNat n) else none

/-- What a double-quoted scalar expects next. -/
inductive Expected where
  /-- A character of the text, or the closing quote. -/
  | any
  /-- The letter of an escape. -/
  | letter
  /-- So many more digits of an escape whose digits made a value so far. -/
  | digits (left : Nat) (value : Nat)
  deriving Repr, DecidableEq

/-- Read a double-quoted scalar on, up to and with its closing quote. -/
def doubleFrom (e : Expected) (f : Folding) (m : Mark) : List Char → Option (Folding × Cursor)
  | [] => none
  | c :: r =>
      match e with
      | .digits left value =>
          match Text.digitValue? 16 c with
          | none => none
          | some d =>
              let value := 16 * value + d
              if left ≤ 1 then
                match charOfCode? value with
                | some x => doubleFrom .any (f.push x) (m.after c) r
                | none => none
              else doubleFrom (.digits (left - 1) value) f (m.after c) r
      | .letter =>
          -- an escaped line break joins two lines without a space
          if isBreak c then doubleFrom .any f.splice (m.after c) r
          else
            match escaped? c, escapeDigits? c with
            | some x, _ => doubleFrom .any (f.push x) (m.after c) r
            | none, some n => doubleFrom (.digits n 0) f (m.after c) r
            | none, none => none
      | .any =>
          if isGap c then doubleFrom .any (f.widen c) (m.after c) r
          else if c = '"' then some (f.close, ⟨r, m.after c⟩)
          else if atDocumentMark m (c :: r) then none
          else if c = '\\' then doubleFrom .letter f.close (m.after c) r
          else doubleFrom .any (f.push c) (m.after c) r

end ClusterBoot.Yaml
