/-
  ClusterBoot.Toml.Reader
  ────────────────────────────────
  **READING A TOML DOCUMENT.**

  A document is a sequence of lines: a header, a key with its value, or
  nothing, each with a comment after it.  Values between brackets and braces
  may run over several lines and may end with a comma; they may be nested
  eighty deep.
-/
import ClusterBoot.Toml.Document
import ClusterBoot.Toml.Quoted
import ClusterBoot.Toml.Scalar

namespace ClusterBoot.Toml

/-! ## §1. White space and comments. -/

/-- The text after blanks. -/
def skipBlanks (cs : List Char) : List Char :=
  cs.dropWhile isBlank

/-- The text after a comment, if there is one, at the end of its line. -/
def skipComment (cs : List Char) : Option (List Char) :=
  match cs with
  | '#' :: r =>
      let stop := r.dropWhile fun c => !isControl c
      if stop.isEmpty || startsWithBreak stop then some stop else none
  | _ => some cs

/-- The text after blanks, comments and line breaks.  The fuel bounds the
number of lines. -/
def skipGap : (fuel : Nat) → List Char → Option (List Char)
  | 0, _ => none
  | n + 1, cs => do
      let r ← skipComment (skipBlanks cs)
      if startsWithBreak r then skipGap n (dropBreak r) else return r

/-- The text after the end of a line, which may hold a comment. -/
def endLine (cs : List Char) : Option (List Char) := do
  let r ← skipComment (skipBlanks cs)
  if r.isEmpty then return r
  else if startsWithBreak r then return dropBreak r
  else none

/-! ## §2. Keys. -/

/-- A character of an unquoted key. -/
def isKeyChar (c : Char) : Bool :=
  let n := c.toNat
  (48 ≤ n && n ≤ 57) || (65 ≤ n && n ≤ 90) || (97 ≤ n && n ≤ 122) || c = '_' || c = '-'

/-- Read one part of a key. -/
def readKeyPart (cs : List Char) : Option (String × List Char) :=
  match cs with
  | '"' :: _ | '\'' :: _ => readShort cs
  | _ =>
      let name := cs.takeWhile isKeyChar
      if name.isEmpty then none else some (String.ofList name, cs.dropWhile isKeyChar)

/-- Read a key whose parts are separated by points, with the blanks after
it.  The fuel bounds the number of parts. -/
def readKey : (fuel : Nat) → List Char → Option (List String × List Char)
  | 0, _ => none
  | n + 1, cs => do
      let (part, r) ← readKeyPart (skipBlanks cs)
      match skipBlanks r with
      | '.' :: r =>
          let (parts, r) ← readKey n r
          return (part :: parts, r)
      | r => return ([part], r)

/-! ## §3. Values. -/

/-- How deep values may be nested. -/
def maxDepth : Nat := 80

mutual

/-- Read a value. -/
def readValue (depth : Nat) : (fuel : Nat) → List Char → Option (Value × List Char)
  | 0, _ => none
  | n + 1, cs =>
      match cs with
      | '[' :: r =>
          if depth = 0 then none
          else (readItems (depth - 1) n r).map fun (vs, r) => (.array vs, r)
      | c :: r =>
          if c = '\x7b' then
            if depth = 0 then none
            else (readPairs (depth - 1) [] n r).map fun (es, r) => (.table es.toValues, r)
          else if c = '"' || c = '\'' then (readQuoted cs).map fun (s, r) => (.str s, r)
          else readScalar cs
      | [] => none

/-- Read the items of an array up to its end. -/
def readItems (depth : Nat) : (fuel : Nat) → List Char → Option (List Value × List Char)
  | 0, _ => none
  | n + 1, cs => do
      let r ← skipGap (cs.length + 1) cs
      match r with
      | ']' :: r => return ([], r)
      | r =>
          let (v, r) ← readValue depth n r
          let r ← skipGap (r.length + 1) r
          match r with
          | ',' :: r =>
              let (vs, r) ← readItems depth n r
              return (v :: vs, r)
          | ']' :: r => return ([v], r)
          | _ => none

/-- Read the pairs of a table between braces up to its end. -/
def readPairs (depth : Nat) (items : Items) : (fuel : Nat) → List Char → Option (Items × List Char)
  | 0, _ => none
  | n + 1, cs => do
      let r ← skipGap (cs.length + 1) cs
      match r with
      | [] => none
      | c :: r' =>
          if c = '\x7d' then return (items, r')
          else
            let (key, r) ← readKey (r.length + 1) r
            match r with
            | '=' :: r =>
                let (v, r) ← readValue depth n (skipBlanks r)
                let items ← items.add key v
                let r ← skipGap (r.length + 1) r
                match r with
                | ',' :: r => readPairs depth items n r
                | d :: r => if d = '\x7d' then return (items, r) else none
                | [] => none
            | _ => none

end

/-! ## §4. Lines. -/

/-- A document in the making. -/
structure Draft where
  /-- What was read. -/
  items : Items
  /-- The path of the current header. -/
  header : List String

/-- Read a header, a key with its value, or nothing. -/
def readLine (d : Draft) (cs : List Char) : Option (Draft × List Char) := do
  match skipBlanks cs with
  | '[' :: '[' :: r =>
      let (path, r) ← readKey (r.length + 1) r
      match r with
      | ']' :: ']' :: r => return (⟨← d.items.extend path, path⟩, r)
      | _ => none
  | '[' :: r =>
      let (path, r) ← readKey (r.length + 1) r
      match r with
      | ']' :: r => return (⟨← d.items.define path, path⟩, r)
      | _ => none
  | r =>
      if r.isEmpty || startsWithBreak r || r.head? = some '#' then return (d, r)
      else
        let (key, r) ← readKey (r.length + 1) r
        match r with
        | '=' :: r =>
            let r := skipBlanks r
            let (v, r) ← readValue maxDepth (2 * r.length + 2) r
            return ({ d with items := ← Items.addBelow key v d.header d.items }, r)
        | _ => none

/-- Read the lines of a document. -/
def readLines (d : Draft) : (fuel : Nat) → List Char → Option Draft
  | 0, _ => none
  | n + 1, cs =>
      if cs.isEmpty then some d
      else do
        let (d, r) ← readLine d cs
        let r ← endLine r
        readLines d n r

/-- The table that a text stands for, if it is well formed.  A byte order
mark at its start does not count. -/
def table? (text : String) : Option (List (String × Value)) :=
  let cs := match text.toList with
    | c :: r => if c = '\ufeff' then r else c :: r
    | [] => []
  (readLines ⟨[], []⟩ (cs.length + 1) cs).map fun d => d.items.toValues

end ClusterBoot.Toml
