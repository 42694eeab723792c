/-
  ClusterBoot.Yaml.Scalar
  ────────────────────────────────
  **WHAT A SCALAR MEANS.**

  A quoted scalar is a text.  A plain scalar is read as the first kind that
  fits: a hexadecimal or octal number, a number after a plus sign, null, a
  truth value, a decimal number, a floating-point number, and a text if none
  does.  A tag of the core schema decides the kind by itself, and what does
  not fit it is `bad`; any other tag makes a text.
-/
import ClusterBoot.Text.Numeral
import ClusterBoot.Yaml.Value

namespace ClusterBoot.Yaml

/-! ## §1. Kinds of plain scalars. -/

/-- The special spellings of infinity and not-a-number that begin with a
point, and the one in mixed case. -/
def floatWords : List String :=
  [".inf", ".Inf", ".INF", "+.inf", "+.Inf", "+.INF", "-.inf", "-.Inf", "-.INF",
   ".nan", "NaN", ".NAN"]

/-- Whether a plain scalar spells a floating-point number. -/
def isReal (s : String) : Bool :=
  floatWords.contains s || Text.isFloat s.toList

/-- Whether a plain scalar spells null. -/
def isNull (s : String) : Bool :=
  s = "~" || s = "null"

/-- The truth value that a plain scalar spells. -/
def bool? (s : String) : Option Bool :=
  if s = "true" then some true else if s = "false" then some false else none

/-- The number that a plain scalar spells with a mark before its digits:
`0x`, `0o` or a plus sign.  After each of them the digits may have a sign of
their own. -/
def markedInt? (cs : List Char) : Option Int64 :=
  match cs with
  | '0' :: 'x' :: digits => Text.readInt64? 16 digits
  | '0' :: 'o' :: digits => Text.readInt64? 8 digits
  | '+' :: digits => Text.readInt64? 10 digits
  | _ => none

/-! ## §2. Resolution. -/

/-- The value of a plain scalar without a tag. -/
def Value.ofPlain (s : String) : Value :=
  match markedInt? s.toList with
  | some n => .int n
  | none =>
      if isNull s then .null
      else
        match bool? s with
        | some b => .bool b
        | none =>
            match Text.readInt64? 10 s.toList with
            | some n => .int n
            | none => if isReal s then .real s else .str s

/-- The value of a plain scalar with a tag, given by its handle and its
suffix. -/
def Value.ofTagged (handle suffix s : String) : Value :=
  if handle ≠ "!!" then .str s
  else if suffix = "bool" then
    match bool? s with
    | some b => .bool b
    | none => .bad
  else if suffix = "int" then
    match Text.readInt64? 10 s.toList with
    | some n => .int n
    | none => .bad
  else if suffix = "float" then
    if isReal s then .real s else .bad
  else if suffix = "null" then
    if isNull s then .null else .bad
  else .str s

/-- The value of a scalar node. -/
def Value.ofScalar (plain : Bool) (tag : Option (String × String)) (s : String) : Value :=
  if !plain then .str s
  else
    match tag with
    | some (handle, suffix) => .ofTagged handle suffix s
    | none => .ofPlain s

end ClusterBoot.Yaml
