/-
  ClusterBoot.EnvironmentFile
  ────────────────────────────────
  **VARIABLES FROM A FILE.**

  An environment file has a variable with its value on each line.  A value
  may hold quotes and escapes, and refer to other variables after a dollar
  sign.  A variable that is set already keeps its value.  The file is read up
  to its first line that is wrong.
-/
import ClusterBoot.Settings
import ClusterBoot.Text.Alphanumeric

namespace ClusterBoot

/-! ## §1. Variables. -/

/-- Variables with their values. -/
abbrev Variables := List (String × String)

/-- The environment that some variables make. -/
def Variables.environment (vs : Variables) : Environment := fun name => vs.lookup name

namespace EnvironmentFile

/-- The variables so far: those that are set, and what the lines of the file
said last. -/
structure Known where
  /-- The variables that are set. -/
  set : Variables
  /-- The values on the lines so far, newest first. -/
  lines : Variables

/-- What a reference to a variable stands for. -/
def Known.value (k : Known) (name : String) : String :=
  ((k.set.lookup name).or (k.lines.lookup name)).getD ""

/-! ## §2. Values. -/

/-- The quotes around what is being read. -/
inductive Quotes where
  | none
  | single
  | double
  deriving DecidableEq

/-- A reference that is being read. -/
inductive Reference where
  /-- There is none. -/
  | none
  /-- A name after a dollar sign. -/
  | bare
  /-- A name between braces. -/
  | braced
  deriving DecidableEq

/-- A value in the making. -/
structure Draft where
  /-- What was read, newest first. -/
  text : List Char
  /-- The quotes that are open. -/
  quotes : Quotes
  /-- Whether a backslash came before. -/
  escaped : Bool
  /-- Whether the value has ended, and only a comment may follow. -/
  ended : Bool
  /-- The reference that is being read. -/
  reference : Reference
  /-- Its name so far, newest first. -/
  name : List Char

namespace Draft

/-- Nothing read yet. -/
def empty : Draft := ⟨[], .none, false, false, .none, []⟩

/-- The draft with one more character. -/
def push (d : Draft) (c : Char) : Draft :=
  { d with text := c :: d.text }

/-- The draft with its reference put in. -/
def resolve (k : Known) (d : Draft) : Draft :=
  { d with
    text := (k.value (String.ofList d.name.reverse)).toList.reverse ++ d.text
    name := []
    reference := .none }

/-- Read a character after a backslash. -/
def readEscaped (c : Char) (d : Draft) : Option Draft :=
  let d := { d with escaped := false }
  if ['\\', '\'', '"', '$', ' '].contains c then some (d.push c)
  else if c = 'n' then some (d.push '\n')
  else none

/-- Read a character of a reference. -/
def readReference (k : Known) (c : Char) (d : Draft) : Draft :=
  if Text.isAlphanumeric c then { d with name := c :: d.name }
  else if d.reference = .braced then
    if c = '\x7d' then d.resolve k else { d with name := c :: d.name }
  else if c = '\x7b' && d.name.isEmpty then { d with reference := .braced }
  else if c = '$' then { d.resolve k with reference := .bare }
  else (d.resolve k).push c

/-- Read a character outside references. -/
def readPlain (c : Char) (d : Draft) : Draft :=
  if c = '$' then { d with reference := .bare }
  else if c = '\\' then { d with escaped := true }
  else if d.quotes = .double then
    if c = '"' then { d with quotes := .none } else d.push c
  else if c = '\'' then { d with quotes := .single }
  else if c = '"' then { d with quotes := .double }
  else if c = ' ' || c = '\t' then { d with ended := true }
  else d.push c

end Draft

/-- Read a value on. -/
def valueFrom (k : Known) (d : Draft) : List Char → Option Draft
  | [] => some d
  | c :: r =>
      if d.ended then
        -- after a value there is room for blanks and a comment only
        if c = ' ' || c = '\t' then valueFrom k d r
        else if c = '#' then some d
        else none
      else if d.escaped then
        match d.readEscaped c with
        | some d => valueFrom k d r
        | none => none
      else if d.quotes = .single then
        valueFrom k (if c = '\'' then { d with quotes := .none } else d.push c) r
      else if d.reference ≠ .none then valueFrom k (d.readReference k c) r
      else valueFrom k (d.readPlain c) r

/-- The value that a text spells. -/
def value? (k : Known) (cs : List Char) : Option String := do
  let d ← valueFrom k .empty cs
  if d.reference = .braced || d.quotes ≠ .none then none
  else return String.ofList (d.resolve k).text.reverse

/-! ## §3. Lines. -/

/-- The text after white space. -/
def skipBlanks (cs : List Char) : List Char :=
  cs.dropWhile Text.isBlank

/-- A character of the name of a variable. -/
def isNameChar (c : Char) : Bool :=
  let n := c.toNat
  (48 ≤ n && n ≤ 57) || (65 ≤ n && n ≤ 90) || (97 ≤ n && n ≤ 122) || c = '_' || c = '.'

/-- Read the name of a variable and the white space after it. -/
def readName (cs : List Char) : Option (String × List Char) :=
  match cs with
  | c :: _ =>
      if c.isAlpha || c = '_' then
        some (String.ofList (cs.takeWhile isNameChar), skipBlanks (cs.dropWhile isNameChar))
      else none
  | [] => none

/-- Read the name of a variable and the equals sign after it.  The word
`export` may come before a name. -/
def readAssigned (cs : List Char) : Option (String × List Char) := do
  let (name, r) ← readName cs
  match r with
  | '=' :: r => return (name, r)
  | r =>
      if name = "export" then
        let (name, r) ← readName r
        match r with
        | '=' :: r => return (name, r)
        | _ => none
      else none

/-- Whether nothing counts any more on a line. -/
def isIdle (cs : List Char) : Bool :=
  cs.isEmpty || cs.head? = some '#'

/-- The variable that a line sets, if any; an error if the line is wrong. -/
def readLine (k : Known) (line : List Char) : Option (Option (String × String)) :=
  let cs := skipBlanks (Text.trimEndChars line)
  if isIdle cs then some none
  else do
    let (name, r) ← readAssigned cs
    let r := skipBlanks r
    if isIdle r then return some (name, "")
    else return some (name, ← value? k r)

/-- What is known after a line that sets a variable. -/
def Known.add (k : Known) (name value : String) : Known where
  set := if (k.set.lookup name).isSome then k.set else (name, value) :: k.set
  lines := (name, value) :: k.lines

/-- What is known after some lines; the first that is wrong ends them. -/
def readLines (k : Known) : List (Option (List Char)) → Known
  | some line :: lines =>
      match readLine k line with
      | some (some (name, value)) => readLines (k.add name value) lines
      | some none => readLines k lines
      | none => k
  | _ => k

/-! ## §4. Files. -/

/-- The pieces of some bytes between line feeds. -/
def piecesOf : List UInt8 → List (List UInt8)
  | [] => [[]]
  | b :: r =>
      if b = 10 then [] :: piecesOf r
      else
        match piecesOf r with
        | [] => [[b]]
        | p :: ps => (b :: p) :: ps

/-- A line of a file, without the carriage return at its end, if it is
text. -/
def lineText? (bytes : List UInt8) : Option (List Char) :=
  let bytes := if bytes.getLast? = some 13 then bytes.dropLast else bytes
  (String.fromUTF8? ⟨bytes.toArray⟩).map String.toList

/-- The lines of a file; those that are not text have none. -/
def lines (content : ByteArray) : List (Option (List Char)) :=
  let parts := piecesOf content.toList
  let parts := if parts.getLast? = some [] then parts.dropLast else parts
  parts.map lineText?

/-- The variables after those of a file were added. -/
def load (set : Variables) (content : ByteArray) : Variables :=
  (readLines ⟨set, []⟩ (lines content)).set

end EnvironmentFile

end ClusterBoot
