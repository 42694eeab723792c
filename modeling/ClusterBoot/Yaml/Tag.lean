/-
  ClusterBoot.Yaml.Tag
  ────────────────────────────────
  **TAGS AND DIRECTIVES.**

  A tag has a handle and a suffix; the suffix may hold octets written as a
  percent sign and two hexadecimal digits, which together must spell a
  character.  Directives are checked for their form only.
-/
import ClusterBoot.Text.Numeral
import ClusterBoot.Yaml.Folded

namespace ClusterBoot.Yaml

/-! ## §1. Escaped octets. -/

/-- An octet written as a percent sign and two hexadecimal digits. -/
def readOctet : List Char → Option (Nat × List Char)
  | '%' :: a :: b :: r =>
      match Text.digitValue? 16 a, Text.digitValue? 16 b with
      | some x, some y => some (16 * x + y, r)
      | _, _ => none
  | _ => none

/-- How many octets a character has, by its first one. -/
def octetCount? (first : Nat) : Option Nat :=
  if first < 0x80 then some 1
  else if first / 0x20 = 0x6 then some 2
  else if first / 0x10 = 0xE then some 3
  else if first / 0x8 = 0x1E then some 4
  else none

/-- Read `n` further octets of a character, each of which must be a
continuation; the code so far is shifted by a whole octet each time. -/
def readContinuations : Nat → Nat → List Char → Option (Nat × List Char)
  | 0, code, cs => some (code, cs)
  | n + 1, code, cs =>
      match readOctet cs with
      | some (octet, r) =>
          if octet / 0x40 = 0x2 then readContinuations n (256 * code + octet) r else none
      | none => none

/-- Read a character written as octets. -/
def readEscaped (cs : List Char) : Option (Char × List Char) := do
  let (first, r) ← readOctet cs
  let count ← octetCount? first
  let (code, r) ← readContinuations (count - 1) first r
  let c ← charOfCode? code
  return (c, r)

/-! ## §2. The characters of a tag. -/

/-- A character that may stand in a tag. -/
def isTagChar (c : Char) : Bool :=
  isWordChar c ||
    [ ';', '/', '?', ':', '@', '&', '=', '+', '$', ',', '.', '!', '~', '*', '\'', '(', ')', '[',
      ']', '%'].contains c

/-- Read the characters of a tag.  The fuel bounds their number. -/
def readTagChars : Nat → List Char → Option (List Char × List Char)
  | 0, cs => some ([], cs)
  | n + 1, cs =>
      match cs with
      | '%' :: _ => do
          let (c, r) ← readEscaped cs
          let (more, r) ← readTagChars n r
          return (c :: more, r)
      | c :: r =>
          if isTagChar c then do
            let (more, r) ← readTagChars n r
            return (c :: more, r)
          else some ([], cs)
      | [] => some ([], [])

/-- The characters of a tag at the cursor. -/
def readTagText (start : Cursor) : Option (List Char × Cursor) := do
  let (body, r) ← readTagChars start.rest.length start.rest
  return (body, start.drop (start.rest.length - r.length))

/-- The same, refusing the empty text. -/
def readSomeTagText (start : Cursor) : Option (List Char × Cursor) := do
  let (body, stop) ← readTagText start
  if body.isEmpty then none else return (body, stop)

/-! ## §3. Tags. -/

/-- The handle at the cursor: an exclamation mark, word characters and, if
there is one, another exclamation mark. -/
def readHandle (start : Cursor) : Option (List Char × Cursor) :=
  if start.peek = some '!' then
    let word := (start.drop 1).rest.takeWhile isWordChar
    let stop := start.drop (1 + word.length)
    if stop.peek = some '!' then some ('!' :: word ++ ['!'], stop.drop 1)
    else some ('!' :: word, stop)
  else none

/-- Whether a handle has an exclamation mark at both ends. -/
def isClosedHandle (handle : List Char) : Bool :=
  2 ≤ handle.length && handle.getLast? = some '!'

/-- Read a tag between angle brackets: it has no handle. -/
def readVerbatimTag (start : Cursor) : Option (String × String × Cursor) := do
  let (suffix, stop) ← readSomeTagText (start.drop 2)
  if stop.peek = some '>' then return ("", String.ofList suffix, stop.drop 1) else none

/-- Read a tag that begins with a handle.  What looks like an open handle is
the start of the suffix; the exclamation mark alone is a suffix too. -/
def readShortTag (start : Cursor) : Option (String × String × Cursor) := do
  let (handle, afterHandle) ← readHandle start
  if isClosedHandle handle then
    let (suffix, stop) ← readSomeTagText afterHandle
    return (String.ofList handle, String.ofList suffix, stop)
  else
    let (more, stop) ← readTagText afterHandle
    match handle.drop 1 ++ more with
    | [] => return ("", "!", stop)
    | suffix => return ("!", String.ofList suffix, stop)

/-- Read a tag: handle and suffix.  White space must follow it. -/
def readTag (start : Cursor) : Option (String × String × Cursor) := do
  let (handle, suffix, stop) ←
    if (start.drop 1).peek = some '<' then readVerbatimTag start else readShortTag start
  if endsWord stop.rest then return (handle, suffix, stop) else none

/-! ## §4. Directives. -/

/-- A number of at most nine digits. -/
def readVersionNumber (start : Cursor) : Option Cursor :=
  let digits := start.rest.takeWhile Text.isDigit
  if digits.isEmpty || 9 < digits.length then none else some (start.drop digits.length)

/-- What follows the name of a version directive: two numbers with a point
between them. -/
def readVersion (start : Cursor) : Option Cursor := do
  let point ← readVersionNumber (start.dropWhile isBlank)
  if point.peek = some '.' then readVersionNumber (point.drop 1) else none

/-- What follows the name of a tag directive: a handle and what it stands
for. -/
def readHandleMeaning (start : Cursor) : Option Cursor := do
  let (handle, stop) ← readHandle (start.dropWhile isBlank)
  if handle = ['!'] || isClosedHandle handle then
    let (_, stop) ← readSomeTagText (stop.dropWhile isBlank)
    if endsWord stop.rest then some stop else none
  else none

/-- Read a directive with the end of its line.  One of unknown name may hold
anything. -/
def readDirective (start : Cursor) : Option Cursor := do
  let start := start.drop 1
  let name := start.rest.takeWhile isWordChar
  let afterName := start.drop name.length
  if name.isEmpty || !endsWord afterName.rest then none
  else
    let stop ←
      if String.ofList name = "YAML" then readVersion afterName
      else if String.ofList name = "TAG" then readHandleMeaning afterName
      else some (afterName.dropWhile fun c => !isBreak c)
    return (← stop.endOfLine?).dropBreak

end ClusterBoot.Yaml
