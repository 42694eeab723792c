/-
  ClusterBoot.Toml.Quoted
  ────────────────────────────────
  **QUOTED TEXTS.**

  A basic text stands between double quotes and knows escapes, a literal text
  stands between single quotes and knows none.  Both also exist with three
  quotes at each end; then they may run over several lines, and the line
  break after the opening quotes does not count.
-/
import ClusterBoot.Text.Numeral

namespace ClusterBoot.Toml

/-! ## §1. Characters. -/

/-- A space or a tab. -/
def isBlank (c : Char) : Bool :=
  c = ' ' || c = '\t'

/-- A control that may not stand in a document as it is. -/
def isControl (c : Char) : Bool :=
  let n := c.toNat
  (n < 0x20 && c ≠ '\t') || n = 0x7F

/-- How many times a character stands at the start. -/
def runLength (c : Char) (cs : List Char) : Nat :=
  (cs.takeWhile (· = c)).length

/-- The text without a line break at its start. -/
def dropBreak : List Char → List Char
  | '\n' :: r => r
  | '\r' :: '\n' :: r => r
  | cs => cs

/-- Whether a line break comes first. -/
def startsWithBreak : List Char → Bool
  | '\n' :: _ => true
  | '\r' :: '\n' :: _ => true
  | _ => false

/-! ## §2. Escapes. -/

/-- What an escape letter stands for. -/
def escaped? (c : Char) : Option Char :=
  match c with
  | 'b' => some '\x08'
  | 't' => some '\t'
  | 'n' => some '\n'
  | 'f' => some '\x0c'
  | 'r' => some '\r'
  | 'e' => some '\x1b'
  | '"' => some '"'
  | '\\' => some '\\'
  | _ => none

/-- How many hexadecimal digits follow an escape letter. -/
def escapeDigits? (c : Char) : Option Nat :=
  match c with
  | 'x' => some 2
  | 'u' => some 4
  | 'U' => some 8
  | _ => none

/-- The character with a code point, if it has one. -/
def charOfCode? (n : Nat) : Option Char :=
  if n < 0xD800 || (0xDFFF < n && n < 0x110000) then some (Char.ofNat n) else none

/-- What a basic text expects next. -/
inductive Expected where
  /-- A character of the text, or the closing quotes. -/
  | any
  /-- The letter of an escape. -/
  | letter
  /-- So many more digits of an escape whose digits made a value so far. -/
  | digits (left : Nat) (value : Nat)
  /-- White space that an escaped line break drops. -/
  | dropped
  deriving Repr, DecidableEq

/-- What follows the digit `c` of an escape. -/
def afterDigit (left value : Nat) (c : Char) : Option (Expected × List Char) := do
  let d ← Text.digitValue? 16 c
  if left ≤ 1 then
    let x ← charOfCode? (16 * value + d)
    return (.any, [x])
  else return (.digits (left - 1) (16 * value + d), [])

/-- What follows the letter `c` of an escape, other than a line break. -/
def afterLetter (c : Char) : Option (Expected × List Char) :=
  match escaped? c, escapeDigits? c with
  | some x, _ => some (.any, [x])
  | none, some n => some (.digits n 0, [])
  | none, none => none

/-! ## §3. Basic texts. -/

/-- Read a basic text on, `text` being what was read, newest first. -/
def basicFrom (e : Expected) (text : List Char) : List Char → Option (String × List Char)
  | [] => none
  | c :: r =>
      match e with
      | .digits left value =>
          match afterDigit left value c with
          | some (e, x) => basicFrom e (x ++ text) r
          | none => none
      | .letter =>
          match afterLetter c with
          | some (e, x) => basicFrom e (x ++ text) r
          | none => none
      | _ =>
          if c = '"' then some (String.ofList text.reverse, r)
          else if c = '\\' then basicFrom .letter text r
          else if isControl c then none
          else basicFrom .any (c :: text) r

/-- Read a basic text of several lines on.  Of the quotes at its end, those
before the last three belong to it, which are two at most. -/
def longBasicFrom (e : Expected) (text : List Char) : List Char → Option (String × List Char)
  | [] => none
  | c :: r =>
      match e with
      | .digits left value =>
          match afterDigit left value c with
          | some (e, x) => longBasicFrom e (x ++ text) r
          | none => none
      | .letter =>
          if isBlank c || c = '\n' || c = '\r' then
            -- blanks may stand between the backslash and the break
            if startsWithBreak ((c :: r).dropWhile isBlank) then longBasicFrom .dropped text r
            else none
          else
            match afterLetter c with
            | some (e, x) => longBasicFrom e (x ++ text) r
            | none => none
      | e =>
          if c = '\r' then
            if startsWithBreak (c :: r) then longBasicFrom e text r else none
          else if e = .dropped && (isBlank c || c = '\n') then longBasicFrom .dropped text r
          else if c = '"' then
            let run := min (runLength '"' (c :: r)) 5
            if 3 ≤ run then
              some (String.ofList (List.replicate (run - 3) '"' ++ text).reverse,
                (c :: r).drop run)
            else longBasicFrom .any (c :: text) r
          else if c = '\\' then longBasicFrom .letter text r
          else if isControl c && c ≠ '\n' then none
          else longBasicFrom .any (c :: text) r

/-! ## §4. Literal texts. -/

/-- Read a literal text on. -/
def literalFrom (text : List Char) : List Char → Option (String × List Char)
  | [] => none
  | c :: r =>
      if c = '\'' then some (String.ofList text.reverse, r)
      else if isControl c then none
      else literalFrom (c :: text) r

/-- Read a literal text of several lines on. -/
def longLiteralFrom (text : List Char) : List Char → Option (String × List Char)
  | [] => none
  | c :: r =>
      if c = '\r' then
        if startsWithBreak (c :: r) then longLiteralFrom text r else none
      else if c = '\'' then
        let run := min (runLength '\'' (c :: r)) 5
        if 3 ≤ run then
          some (String.ofList (List.replicate (run - 3) '\'' ++ text).reverse, (c :: r).drop run)
        else longLiteralFrom (c :: text) r
      else if isControl c && c ≠ '\n' then none
      else longLiteralFrom (c :: text) r

/-! ## §5. Any of them. -/

/-- Read a quoted text of one line. -/
def readShort : List Char → Option (String × List Char)
  | '"' :: r => basicFrom .any [] r
  | '\'' :: r => literalFrom [] r
  | _ => none

/-- Read a quoted text. -/
def readQuoted : List Char → Option (String × List Char)
  | '"' :: '"' :: '"' :: r => longBasicFrom .any [] (dropBreak r)
  | '\'' :: '\'' :: '\'' :: r => longLiteralFrom [] (dropBreak r)
  | cs => readShort cs

end ClusterBoot.Toml
