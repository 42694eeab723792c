/-
  ClusterBoot.Options
  ────────────────────────────────
  **NAMED VALUES IN THE ORDER OF THEIR NAMES.**

  The options that a role document passes on without looking at them.  They
  are kept in strictly ascending order of their names by code points, so each
  name occurs once and two collections of the same options are equal.
-/
import ClusterBoot.Yaml.Value

namespace ClusterBoot

open Yaml (Value)

/-! ## §1. Insertion in order. -/

/-- A named value. -/
abbrev Named := String × Value

/-- Whether names strictly ascend. -/
def Ascending (entries : List Named) : Prop :=
  entries.Pairwise fun a b => a.1 < b.1

/-- Put a value under a name into its place among ascending names, instead of
an earlier value of that name. -/
def insertAscending (key : String) (value : Value) : List Named → List Named
  | [] => [(key, value)]
  | e :: es =>
      if key < e.1 then (key, value) :: e :: es
      else if key = e.1 then (key, value) :: es
      else e :: insertAscending key value es

/-- What is among the entries after an insertion is the new entry or was there
before. -/
theorem mem_insertAscending {key : String} {value : Value} {e : Named} {es : List Named}
    (h : e ∈ insertAscending key value es) : e = (key, value) ∨ e ∈ es := by
  induction es with
  | nil => simpa [insertAscending] using h
  | cons d ds ih =>
      unfold insertAscending at h
      split at h
      · simpa using h
      · split at h
        · rcases List.mem_cons.1 h with h | h
          · exact .inl h
          · exact .inr (List.mem_cons_of_mem _ h)
        · rcases List.mem_cons.1 h with h | h
          · exact .inr (h ▸ List.mem_cons_self)
          · rcases ih h with h | h
            · exact .inl h
            · exact .inr (List.mem_cons_of_mem _ h)

/-- Insertion keeps names ascending. -/
theorem Ascending.insertAscending {key : String} {value : Value} {es : List Named}
    (h : Ascending es) : Ascending (insertAscending key value es) := by
  induction es with
  | nil => simp [Ascending, ClusterBoot.insertAscending]
  | cons d ds ih =>
      have hd := List.pairwise_cons.1 h
      unfold ClusterBoot.insertAscending
      split
      · rename_i hlt
        refine List.pairwise_cons.2 ⟨?_, h⟩
        intro e he
        rcases List.mem_cons.1 he with rfl | he
        · exact hlt
        · exact String.lt_trans hlt (hd.1 e he)
      · split
        · rename_i heq
          exact List.pairwise_cons.2 ⟨fun e he => heq ▸ hd.1 e he, hd.2⟩
        · rename_i hlt hne
          refine List.pairwise_cons.2 ⟨?_, ih hd.2⟩
          intro e he
          rcases mem_insertAscending he with rfl | he
          · exact String.not_le.1 fun hle => hne (String.le_antisymm hle (String.not_lt.1 hlt))
          · exact hd.1 e he

/-! ## §2. Options. -/

/-- Named values in ascending order of their names. -/
structure Options where
  /-- The named values. -/
  entries : List Named
  /-- Their names strictly ascend. -/
  ascending : Ascending entries

namespace Options

instance : DecidableEq Options := fun a b =>
  decidable_of_iff (a.entries = b.entries)
    ⟨fun h => by cases a; cases b; cases h; rfl, fun h => h ▸ rfl⟩

instance : Repr Options := ⟨fun o n => reprPrec o.entries n⟩

/-- No options. -/
def empty : Options := ⟨[], List.Pairwise.nil⟩

instance : Inhabited Options := ⟨empty⟩

/-- The value under a name. -/
def get? (o : Options) (key : String) : Option Value :=
  o.entries.lookup key

/-- The options with a value under a name. -/
def insert (o : Options) (key : String) (value : Value) : Options :=
  ⟨insertAscending key value o.entries, o.ascending.insertAscending⟩

end Options

end ClusterBoot
