/-
  ClusterBoot.Yaml.Emit
  ────────────────────────────────
  **WRITING A VALUE AS A DOCUMENT.**

  A document is a line of three hyphens and the value.  Collections are
  written in block style with an indentation of two columns per level; an
  empty one is written as a pair of brackets or braces.  A collection that is
  an item, or the value of a compound key, begins on the line of its mark;
  one under a simple key begins on the next line.  A text is quoted when,
  unquoted, it could be taken for something else.
-/
import ClusterBoot.Text.Hex
import ClusterBoot.Text.Numeral
import ClusterBoot.Yaml.Value

namespace ClusterBoot.Yaml

/-! ## §1. Texts. -/

/-- Characters that an unquoted text must not begin with. -/
def isLeadingIndicator (c : Char) : Bool :=
  ['&', '*', '?', '|', '-', '<', '>', '=', '!', '%', '@', '.'].contains c

/-- Characters that an unquoted text must not contain: indicators, quotes and
most controls. -/
def isReserved (c : Char) : Bool :=
  let n := c.toNat
  [':', '\x7b', '\x7d', '[', ']', ',', '#', '\x60', '"', '\'', '\\', '\t', '\n', '\r'].contains c
    || n ≤ 6 || (0x0E ≤ n && n ≤ 0x1A) || (0x1C ≤ n && n ≤ 0x1F)

/-- Words that stand for truth values or null in some dialect. -/
def reservedWords : List String :=
  ["yes", "Yes", "YES", "no", "No", "NO", "True", "TRUE", "true", "False", "FALSE", "false",
   "on", "On", "ON", "off", "Off", "OFF", "null", "Null", "NULL", "~"]

/-- Whether a text must be quoted. -/
def needsQuotes (s : String) : Bool :=
  let cs := s.toList
  cs.isEmpty || cs.head? = some ' ' || cs.getLast? = some ' '
    || (cs.head?.map isLeadingIndicator).getD false
    || cs.any isReserved
    || reservedWords.contains s
    || ['0', 'x'].isPrefixOf cs
    || (Text.readInt64? 10 cs).isSome || Text.isFloat cs

/-- How one character is written between quotes. -/
def escapeChar (c : Char) : List Char :=
  let n := c.toNat
  if c = '"' then ['\\', '"']
  else if c = '\\' then ['\\', '\\']
  else if n = 0x08 then ['\\', 'b']
  else if c = '\t' then ['\\', 't']
  else if c = '\n' then ['\\', 'n']
  else if n = 0x0C then ['\\', 'f']
  else if c = '\r' then ['\\', 'r']
  else if n < 0x20 || n = 0x7F then
    ['\\', 'u', '0', '0', Text.Hex.digit (n / 16), Text.Hex.digit (n % 16)]
  else [c]

/-- A text as it is written. -/
def writeText (s : String) : List Char :=
  if needsQuotes s then ['"'] ++ s.toList.flatMap escapeChar ++ ['"'] else s.toList

/-! ## §2. Values. -/

/-- The blanks at the start of a line of the given level. -/
def indentation (level : Nat) : List Char :=
  List.replicate (2 * level) ' '

/-- The end of a line, and the indentation of the next. -/
def newLine (level : Nat) : List Char :=
  '\n' :: indentation level

/-- Parts of a collection, one on each line of the given level. -/
def joinLines (level : Nat) (parts : List (List Char)) : List Char :=
  (newLine level).intercalate parts

namespace Value

/-- A list or a mapping. -/
def isCollection : Value → Bool
  | list _ | map _ => true
  | _ => false

/-- A list or a mapping with something in it. -/
def isFilled : Value → Bool
  | list xs => !xs.isEmpty
  | map es => !es.isEmpty
  | _ => false

/-- What stands between a mark and the value after it, whose lines have the
given level: filled collections under a simple key begin a line. -/
def leadIn (sameLine : Bool) (level : Nat) (v : Value) : List Char :=
  if v.isFilled && !sameLine then newLine level else [' ']

mutual

/-- A value as it is written, with the lines of a collection on the given
level. -/
def write (level : Nat) : Value → List Char
  | null | bad => ['~']
  | bool b => (boolText b).toList
  | int n => (toString n.toInt).toList
  | real s => s.toList
  | str s => writeText s
  | list xs =>
      if xs.isEmpty then ['[', ']'] else joinLines level (writeItems level xs)
  | map es =>
      if es.isEmpty then ['\x7b', '\x7d'] else joinLines level (writeEntries level es)

/-- The items of a list as they are written. -/
def writeItems (level : Nat) : List Value → List (List Char)
  | [] => []
  | x :: xs =>
      (['-'] ++ leadIn true (level + 1) x ++ write (level + 1) x) :: writeItems level xs

/-- The entries of a mapping as they are written. -/
def writeEntries (level : Nat) : List (Value × Value) → List (List Char)
  | [] => []
  | (k, v) :: es =>
      (if k.isCollection then
        ['?'] ++ leadIn true (level + 1) k ++ write (level + 1) k ++ newLine level
          ++ [':'] ++ leadIn true (level + 1) v ++ write (level + 1) v
      else
        write level k ++ [':'] ++ leadIn false (level + 1) v ++ write (level + 1) v)
        :: writeEntries level es

end

/-- The document that holds a value. -/
def emit (v : Value) : String :=
  String.ofList (['-', '-', '-', '\n'] ++ write 0 v ++ ['\n'])

end Value

end ClusterBoot.Yaml
