/-
  ClusterBoot.Toml.Document
  ────────────────────────────────
  **THE TABLES OF A DOCUMENT.**

  Tables come about in several ways, and the way decides what may be added to
  them later: a header defines its table and implies those around it; a
  dotted key makes tables that only dotted keys extend, and header can only
  add tables below them; an array of tables grows by headers; values between
  brackets and braces are closed.  A `Section` is a table with what is known
  about its origin.
-/
import ClusterBoot.Toml.Value

namespace ClusterBoot.Toml

/-! ## §1. Items. -/

/-- Where a table comes from. -/
structure Origin where
  /-- No header has defined it yet. -/
  implied : Bool
  /-- A dotted key made it. -/
  dotted : Bool
  deriving Repr, DecidableEq

/-- What is under a key while a document is read. -/
inductive Item where
  /-- A closed value. -/
  | value (v : Value)
  /-- A table. -/
  | table (origin : Origin) (entries : List (String × Item))
  /-- An array of tables: the entries of the last, and those before it,
  newest first. -/
  | tables (last : List (String × Item)) (before : List (List (String × Item)))

/-- The entries of a table that is being read. -/
abbrev Items := List (String × Item)

namespace Items

/-- What is under a key. -/
def get? (items : Items) (key : String) : Option Item :=
  items.lookup key

/-- The entries with an item under a key. -/
def put (items : Items) (key : String) (item : Item) : Items :=
  (key, item) :: items.filter fun e => e.1 ≠ key

/-! ## §2. Dotted keys. -/

/-- Put a value under a key of a table, which must be dotted exactly if the
key was reached through dots. -/
def addHere (dotted viaDots : Bool) (key : String) (v : Value) (items : Items) : Option Items :=
  if dotted ≠ viaDots || (items.get? key).isSome then none
  else some (items.put key (.value v))

/-- Put a value under a dotted key. -/
def addDotted (dotted viaDots : Bool) (v : Value) : List String → Items → Option Items
  | [], _ => none
  | [key], items => items.addHere dotted viaDots key v
  | key :: keys, items =>
      match items.get? key with
      | none => do
          let inner ← addDotted true true v keys []
          return items.put key (.table ⟨true, true⟩ inner)
      | some (.table origin entries) =>
          if origin.implied then do
            let inner ← addDotted origin.dotted true v keys entries
            return items.put key (.table origin inner)
          else none
      | some (.tables last before) => do
          let inner ← addDotted false true v keys last
          return items.put key (.tables inner before)
      | some (.value _) => none

/-- Put a value under a dotted key of a table between braces or under a
header. -/
def add (keys : List String) (v : Value) (items : Items) : Option Items :=
  addDotted false false v keys items

/-! ## §3. Headers. -/

/-- Define a table. -/
def defineHere (key : String) (items : Items) : Option Items :=
  match items.get? key with
  | none => some (items.put key (.table ⟨false, false⟩ []))
  | some (.table origin entries) =>
      if origin.implied && !origin.dotted then
        some (items.put key (.table ⟨false, false⟩ entries))
      else none
  | _ => none

/-- Add a table to an array of tables. -/
def extendHere (key : String) (items : Items) : Option Items :=
  match items.get? key with
  | none => some (items.put key (.tables [] []))
  | some (.tables last before) => some (items.put key (.tables [] (last :: before)))
  | _ => none

/-- Change the table that a path of keys leads to.  A missing table on the
way is implied; an array of tables leads to its last. -/
def changeAt (f : String → Items → Option Items) : List String → Items → Option Items
  | [], _ => none
  | [key], items => f key items
  | key :: keys, items =>
      match items.get? key with
      | none => do
          let inner ← changeAt f keys []
          return items.put key (.table ⟨true, false⟩ inner)
      | some (.table origin entries) => do
          let inner ← changeAt f keys entries
          return items.put key (.table origin inner)
      | some (.tables last before) => do
          let inner ← changeAt f keys last
          return items.put key (.tables inner before)
      | some (.value _) => none

/-- Follow a header that defines a table. -/
def define (path : List String) (items : Items) : Option Items :=
  changeAt defineHere path items

/-- Follow a header that adds a table to an array. -/
def extend (path : List String) (items : Items) : Option Items :=
  changeAt extendHere path items

/-- Put a value under a dotted key of the table of the current header, which
the path leads to. -/
def addBelow (keys : List String) (v : Value) : List String → Items → Option Items
  | [], items => items.add keys v
  | key :: path, items =>
      match items.get? key with
      | some (.table origin entries) => do
          let inner ← addBelow keys v path entries
          return items.put key (.table origin inner)
      | some (.tables last before) => do
          let inner ← addBelow keys v path last
          return items.put key (.tables inner before)
      | _ => none

end Items

/-! ## §4. Finished values. -/

mutual

/-- The value of an item. -/
def Item.toValue : Item → Value
  | .value v => v
  | .table _ entries => .table (valuesOf entries)
  | .tables last before => .array (tablesOf before ++ [.table (valuesOf last)])

/-- The values of the entries of a table. -/
def valuesOf : List (String × Item) → List (String × Value)
  | [] => []
  | (key, item) :: rest => (key, item.toValue) :: valuesOf rest

/-- The tables of an array, given newest first. -/
def tablesOf : List (List (String × Item)) → List Value
  | [] => []
  | entries :: rest => tablesOf rest ++ [.table (valuesOf entries)]

end

/-- The table that the entries of a document make. -/
def Items.toValues (items : Items) : List (String × Value) :=
  valuesOf items

end ClusterBoot.Toml
