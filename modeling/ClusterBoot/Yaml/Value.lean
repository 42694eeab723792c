/-
  ClusterBoot.Yaml.Value
  ────────────────────────────────
  **THE VALUES OF A YAML DOCUMENT.**

  A value is a scalar, a list or a mapping.  A mapping keeps the order of its
  entries, and entering a key a second time drops its first entry and puts
  the new one last (`insertEntry`).  A floating-point number is kept as the
  text that was written.  `bad` stands for what could not be resolved: a
  scalar that contradicts its tag, or an alias of an anchor that is still
  open.  Equality of values is decidable, entry order included.
-/
import ClusterBoot.Text.Quoted

namespace ClusterBoot.Yaml

/-! ## §1. Values. -/

/-- A value of a document. -/
inductive Value where
  /-- The absent value. -/
  | null
  /-- A node that could not be resolved. -/
  | bad
  /-- A truth value. -/
  | bool (b : Bool)
  /-- A whole number of 64 bits. -/
  | int (n : Int64)
  /-- A floating-point number, as it was written. -/
  | real (text : String)
  /-- A text. -/
  | str (text : String)
  /-- A sequence. -/
  | list (items : List Value)
  /-- A mapping, in the order of its entries. -/
  | map (entries : List (Value × Value))
  deriving Inhabited, Repr

/-- An entry of a mapping. -/
abbrev Entry := Value × Value

namespace Value

/-! ## §2. Equality. -/

mutual

/-- Whether two values are the same. -/
def same : Value → Value → Bool
  | null, null => true
  | bad, bad => true
  | bool a, bool b => a == b
  | int a, int b => a == b
  | real a, real b => a == b
  | str a, str b => a == b
  | list xs, list ys => sameItems xs ys
  | map xs, map ys => sameEntries xs ys
  | _, _ => false

/-- Whether two lists hold the same values in the same order. -/
def sameItems : List Value → List Value → Bool
  | [], [] => true
  | x :: xs, y :: ys => same x y && sameItems xs ys
  | _, _ => false

/-- Whether two mappings hold the same entries in the same order. -/
def sameEntries : List (Value × Value) → List (Value × Value) → Bool
  | [], [] => true
  | (k, v) :: xs, (l, w) :: ys => same k l && same v w && sameEntries xs ys
  | _, _ => false

end

mutual

/-- A value is the same as itself. -/
theorem same_refl : (a : Value) → same a a = true
  | null | bad => by simp [same]
  | bool _ | int _ | real _ | str _ => by simp [same]
  | list xs => by simpa [same] using sameItems_refl xs
  | map xs => by simpa [same] using sameEntries_refl xs

/-- A list holds the same values as itself. -/
theorem sameItems_refl : (xs : List Value) → sameItems xs xs = true
  | [] => by simp [sameItems]
  | x :: xs => by simp [sameItems, same_refl x, sameItems_refl xs]

/-- A mapping holds the same entries as itself. -/
theorem sameEntries_refl : (xs : List (Value × Value)) → sameEntries xs xs = true
  | [] => by simp [sameEntries]
  | (k, v) :: xs => by
      simp [sameEntries, same_refl k, same_refl v, sameEntries_refl xs]

end

mutual

/-- Values that are the same are equal. -/
theorem eq_of_same : (a b : Value) → same a b = true → a = b
  | null, b, h => by cases b <;> simp_all [same]
  | bad, b, h => by cases b <;> simp_all [same]
  | bool _, b, h => by cases b <;> simp_all [same]
  | int _, b, h => by cases b <;> simp_all [same]
  | real _, b, h => by cases b <;> simp_all [same]
  | str _, b, h => by cases b <;> simp_all [same]
  | list xs, b, h => by
      cases b with
      | list ys => rw [eq_of_sameItems xs ys (by simpa [same] using h)]
      | _ => simp [same] at h
  | map xs, b, h => by
      cases b with
      | map ys => rw [eq_of_sameEntries xs ys (by simpa [same] using h)]
      | _ => simp [same] at h

/-- Lists that hold the same values are equal. -/
theorem eq_of_sameItems : (xs ys : List Value) → sameItems xs ys = true → xs = ys
  | [], ys, h => by cases ys <;> simp_all [sameItems]
  | x :: xs, ys, h => by
      cases ys with
      | nil => simp [sameItems] at h
      | cons y ys =>
          simp only [sameItems, Bool.and_eq_true] at h
          rw [eq_of_same x y h.1, eq_of_sameItems xs ys h.2]

/-- Mappings that hold the same entries are equal. -/
theorem eq_of_sameEntries :
    (xs ys : List (Value × Value)) → sameEntries xs ys = true → xs = ys
  | [], ys, h => by cases ys <;> simp_all [sameEntries]
  | (k, v) :: xs, ys, h => by
      cases ys with
      | nil => simp [sameEntries] at h
      | cons y ys =>
          obtain ⟨l, w⟩ := y
          simp only [sameEntries, Bool.and_eq_true] at h
          rw [eq_of_same k l h.1.1, eq_of_same v w h.1.2, eq_of_sameEntries xs ys h.2]

end

/-- Two values are the same exactly when they are equal. -/
theorem same_iff (a b : Value) : same a b = true ↔ a = b :=
  ⟨eq_of_same a b, fun h => h ▸ same_refl a⟩

instance : DecidableEq Value := fun a b =>
  decidable_of_iff (same a b = true) (same_iff a b)

/-! ## §3. Mappings. -/

/-- The entries of a mapping after entering a value under a key: an earlier
entry of the key is dropped and the new one comes last. -/
def insertEntry (key value : Value) (entries : List Entry) : List Entry :=
  entries.filter (fun e => e.1 ≠ key) ++ [(key, value)]

/-- The mapping that a sequence of entries makes, entered one by one. -/
def ofEntries (entries : List Entry) : Value :=
  map (entries.foldl (fun es e => insertEntry e.1 e.2 es) [])

/-! ## §4. Scalars as texts. -/

/-- The spelling of a truth value. -/
def boolText (b : Bool) : String :=
  if b then "true" else "false"

/-- The text of a scalar; null, lists and mappings have none. -/
def scalarText? : Value → Option String
  | str s | real s => some s
  | int n => some (toString n.toInt)
  | bool b => some (boolText b)
  | _ => none

/-! ## §5. Values in messages. -/

mutual

/-- How a message shows a value: its kind, and its content between
brackets. -/
def describe : Value → String
  | null => "Null"
  | bad => "BadValue"
  | bool b => "Boolean(" ++ boolText b ++ ")"
  | int n => "Integer(" ++ toString n.toInt ++ ")"
  | real s => "Real(" ++ Text.quote s ++ ")"
  | str s => "String(" ++ Text.quote s ++ ")"
  | list xs => "Array([" ++ ", ".intercalate (describeItems xs) ++ "])"
  | map xs => "Hash(\x7b" ++ ", ".intercalate (describeEntries xs) ++ "\x7d)"

/-- How a message shows the items of a list. -/
def describeItems : List Value → List String
  | [] => []
  | x :: xs => describe x :: describeItems xs

/-- How a message shows the entries of a mapping. -/
def describeEntries : List (Value × Value) → List String
  | [] => []
  | (k, v) :: xs => (describe k ++ ": " ++ describe v) :: describeEntries xs

end

end Value

end ClusterBoot.Yaml
