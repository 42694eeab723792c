/-
  ClusterBoot.Setting
  ────────────────────────────────
  **A SETTING THAT IS A TEXT OR A LIST.**

  Two keys of a role document may be written either as one text or as a list.
  A `Setting` is such a key as it was written; what fits neither form is kept,
  so that it can be reported.  The two keys differ in which items a list may
  have: `texts` for one, the textual form of any scalar for the other.
-/
import ClusterBoot.Yaml.Value

namespace ClusterBoot

open Yaml (Value)

/-- A key that is written as a text or as a list. -/
inductive Setting where
  /-- The key is missing, or null. -/
  | absent
  /-- One text. -/
  | single (text : String)
  /-- A list of texts. -/
  | list (items : List String)
  /-- Anything else. -/
  | other (value : Value)
  deriving Repr, DecidableEq

namespace Setting

/-- A text as an item; other values are none. -/
def text? : Value → Option String
  | .str s => some s
  | _ => none

/-- The texts of a list of values, if each of them has one. -/
def itemTexts? (item? : Value → Option String) : List Value → Option (List String)
  | [] => some []
  | v :: vs =>
      match item? v with
      | some s => (itemTexts? item? vs).map (s :: ·)
      | none => none

/-- The setting that a value stands for, `item?` being the text of an item. -/
def ofValue (item? : Value → Option String) : Value → Setting
  | .null => absent
  | .str s => single s
  | .list vs =>
      match itemTexts? item? vs with
      | some items => list items
      | none => other (.list vs)
  | v => other v

/-- The value that a setting is written as; an absent one is not written. -/
def toValue? : Setting → Option Value
  | absent => none
  | single s => some (.str s)
  | list items => some (.list (items.map .str))
  | other v => some v

/-- The items of a setting that is a list. -/
def asList? : Setting → Option (List String)
  | list items => some items
  | _ => none

end Setting

end ClusterBoot
