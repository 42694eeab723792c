/-
  ClusterBoot.Toml.Value
  ────────────────────────────────
  **THE VALUES OF A TOML DOCUMENT.**

  Of floating-point numbers and dates only what matters later is kept:
  whether a number is too large, and that a date is one.
-/

namespace ClusterBoot.Toml

/-- A value of a document. -/
inductive Value where
  /-- A text. -/
  | str (s : String)
  /-- A whole number of any size. -/
  | int (n : Int)
  /-- A floating-point number, and whether it is too large for 64 bits. -/
  | float (tooLarge : Bool)
  /-- A truth value. -/
  | bool (b : Bool)
  /-- A date, a time, or both. -/
  | datetime
  /-- An array. -/
  | array (items : List Value)
  /-- A table. -/
  | table (entries : List (String × Value))
  deriving Inhabited, Repr

end ClusterBoot.Toml
