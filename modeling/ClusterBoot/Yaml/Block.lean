/-
  ClusterBoot.Yaml.Block
  ────────────────────────────────
  **BLOCK SCALARS.**

  A literal block keeps its lines; a folded block joins them as a plain
  scalar does, except around lines that begin with white space.  The header
  may fix the indentation and say what becomes of the breaks at the end:
  all are dropped, one is kept, or all are kept.  Without a fixed
  indentation the deepest of the first lines decides.
-/
import ClusterBoot.Text.Numeral
import ClusterBoot.Yaml.Cursor

namespace ClusterBoot.Yaml

/-! ## §1. The header. -/

/-- What becomes of the line breaks at the end of a block. -/
inductive Chomping where
  /-- All are dropped. -/
  | strip
  /-- The last break of the text is kept. -/
  | clip
  /-- All are kept. -/
  | keep
  deriving Repr, DecidableEq

/-- The chomping that an indicator asks for. -/
def Chomping.ofIndicator? (c : Char) : Option Chomping :=
  if c = '+' then some .keep else if c = '-' then some .strip else none

/-- The header of a block: chomping, extra indentation (0 if it is not
fixed), and how many characters they take; an indentation of `0` is
refused. -/
def blockHeader? : List Char → Option (Chomping × Nat × Nat)
  | [] => some (.clip, 0, 0)
  | c :: r =>
      match Chomping.ofIndicator? c with
      | some chomping =>
          match r with
          | d :: _ =>
              if Text.isDigit d then
                if d = '0' then none else some (chomping, d.toNat - 48, 2)
              else some (chomping, 0, 1)
          | [] => some (chomping, 0, 1)
      | none =>
          if Text.isDigit c then
            if c = '0' then none
            else
              match r.head?.bind Chomping.ofIndicator? with
              | some chomping => some (chomping, c.toNat - 48, 2)
              | none => some (.clip, c.toNat - 48, 1)
          else some (.clip, 0, 0)

/-! ## §2. The lines. -/

/-- A block in the making. -/
structure BlockText where
  /-- The indentation of the text; 0 while it is not known. -/
  indent : Nat
  /-- The deepest column that a line began in so far. -/
  deepest : Nat
  /-- What was read, newest first. -/
  text : List Char
  /-- Whether a line of the text has been ended by a break. -/
  ended : Bool
  /-- How many empty lines follow it. -/
  empties : Nat
  /-- Whether the last line began with white space. -/
  blankLine : Bool
  deriving Repr, DecidableEq

namespace BlockText

/-- Begin a line whose first character is `c`, after the breaks before it. -/
def beginLine (folded : Bool) (c : Char) (b : BlockText) : BlockText :=
  let text :=
    if folded && b.ended && !b.blankLine && !isBlank c then
      if b.empties = 0 then ' ' :: b.text else b.text
    else if b.ended then '\n' :: b.text
    else b.text
  { b with
    text := List.replicate b.empties '\n' ++ text
    ended := false
    empties := 0
    blankLine := isBlank c }

/-- The text of a block at its end. -/
def finish (chomping : Chomping) (b : BlockText) : String :=
  let text := if chomping ≠ .strip && b.ended then '\n' :: b.text else b.text
  let text := if chomping = .keep then List.replicate b.empties '\n' ++ text else text
  String.ofList text.reverse

end BlockText

/-- Read the lines of a block on.  `inLine` tells whether the next character
belongs to a line of the text; `outer` is the indentation around the
block. -/
def blockFrom (folded : Bool) (outer : Int) (inLine : Bool) (b : BlockText) (m : Mark) :
    List Char → Option (BlockText × Cursor)
  | [] => some (b, ⟨[], m⟩)
  | c :: r =>
      if inLine then
        if isBreak c then
          blockFrom folded outer false { b with ended := true } (m.after c) r
        else blockFrom folded outer true { b with text := c :: b.text } (m.after c) r
      else
        let shallow := b.indent = 0 || decide (m.column < b.indent)
        if shallow && c = ' ' then blockFrom folded outer false b (m.after c) r
        else
          let b := { b with deepest := max b.deepest m.column }
          -- only spaces may indent the text
          if shallow && c = '\t' then none
          else if isBreak c then
            blockFrom folded outer false { b with empties := b.empties + 1 } (m.after c) r
          else
            -- the first line with text fixes an indentation that was left open
            let indent :=
              if b.indent = 0 then max (max b.deepest (outer + 1).toNat) 1 else b.indent
            let b := { b with indent := indent }
            if m.column = indent then
              let b := b.beginLine folded c
              blockFrom folded outer true { b with text := c :: b.text } (m.after c) r
            else some (b, ⟨c :: r, m⟩)

/-- Read a block scalar whose indicator stands at the cursor. -/
def readBlock (folded : Bool) (outer : Int) (start : Cursor) : Option (String × Cursor) := do
  let afterIndicator := start.drop 1
  let (chomping, extra, taken) ← blockHeader? afterIndicator.rest
  let header ← (afterIndicator.drop taken).endOfLine?
  let body := header.dropBreak
  let indent :=
    if extra = 0 then 0 else if 0 ≤ outer then (outer + extra).toNat else extra
  let (b, stop) ← blockFrom folded outer false ⟨indent, 0, [], false, 0, false⟩ body.mark body.rest
  return (b.finish chomping, stop)

end ClusterBoot.Yaml
