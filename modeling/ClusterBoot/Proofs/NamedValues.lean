/-
  ClusterBoot.Proofs.NamedValues
  ────────────────────────────────
  **WHAT AN INSERTION AMONG NAMED VALUES CHANGES.**

  An insertion changes the value of its own name and of no other
  (`lookup_insertAscending`), and it is not seen by a filter that drops this
  name.  Values whose names ascend already are what their insertion, one by
  one, makes (`insertAll_ascending`).
-/
import ClusterBoot.Options

namespace ClusterBoot

open Yaml (Value)

/-! ## §1. One insertion. -/

/-- The first entry is found under its own name only. -/
theorem lookup_first (name : String) (e : Named) (es : List Named) :
    (e :: es).lookup name = if name = e.1 then some e.2 else es.lookup name := by
  rw [List.lookup_cons]
  by_cases h : name = e.1
  · rw [if_pos h, h, beq_self_eq_true]
  · rw [if_neg h, beq_eq_false_iff_ne.2 h]

/-- After an insertion the inserted name has the new value, and every other
name has the value that it had. -/
theorem lookup_insertAscending (key name : String) (value : Value) (es : List Named) :
    (insertAscending key value es).lookup name
      = if name = key then some value else es.lookup name := by
  induction es with
  | nil => exact lookup_first name (key, value) []
  | cons e es ih =>
      unfold insertAscending
      split
      · rw [lookup_first]
      · split
        -- the name is there already and gets the new value
        · rename_i heq
          rw [lookup_first, lookup_first]
          by_cases h : name = key
          · rw [if_pos h, if_pos h]
          · rw [if_neg h, if_neg h, if_neg fun he => h (he.trans heq.symm)]
        -- the insertion goes on behind the first entry, whose name is another
        · rename_i hne
          rw [lookup_first, lookup_first, ih]
          by_cases h : name = e.1
          · rw [if_pos h, if_pos h, if_neg fun hk => hne (hk.symm.trans h)]
          · rw [if_neg h, if_neg h]

/-- An insertion under a name that is filtered out is not seen. -/
theorem filter_insertAscending {k : String → Bool} {key : String} (h : k key = false)
    (value : Value) (es : List Named) :
    (insertAscending key value es).filter (fun e => k e.1) = es.filter fun e => k e.1 := by
  induction es with
  | nil => simp [insertAscending, h]
  | cons e es ih =>
      unfold insertAscending
      split
      · simp [h]
      · split
        · rename_i heq
          simp [h, ← heq]
        · rw [List.filter_cons, List.filter_cons, ih]

/-- A name before all others is inserted first. -/
theorem insertAscending_first {key : String} (value : Value) {es : List Named}
    (h : ∀ e ∈ es, key < e.1) : insertAscending key value es = (key, value) :: es := by
  cases es with
  | nil => rfl
  | cons e es => exact if_pos (h e List.mem_cons_self)

/-- An insertion under a name that is not filtered out may as well be made
after the filter. -/
theorem filter_insertAscending_of_kept {k : String → Bool} {key : String} (h : k key = true)
    (value : Value) {es : List Named} (hes : Ascending es) :
    (insertAscending key value es).filter (fun e => k e.1)
      = insertAscending key value (es.filter fun e => k e.1) := by
  induction es with
  | nil => simp [insertAscending, h]
  | cons e es ih =>
      obtain ⟨hfirst, hrest⟩ := List.pairwise_cons.1 hes
      rw [insertAscending]
      split
      next hlt =>
        -- what is left of the entries lies beyond the name as all of them do
        rw [List.filter_cons_of_pos (by exact h), insertAscending_first]
        intro d hd
        rcases List.mem_cons.1 (List.mem_filter.1 hd).1 with rfl | hd
        · exact hlt
        · exact String.lt_trans hlt (hfirst d hd)
      next hlt =>
        split
        next heq =>
          rw [List.filter_cons_of_pos (by exact h), List.filter_cons_of_pos (by exact heq ▸ h),
            insertAscending, if_neg hlt, if_pos heq]
        next hne =>
          rw [List.filter_cons, List.filter_cons, ih hrest]
          split
          · rw [insertAscending, if_neg hlt, if_neg hne]
          · rfl

/-! ## §2. Many insertions. -/

/-- Named values after the insertion of others, one by one. -/
def insertAll (old new : List Named) : List Named :=
  new.foldl (fun es e => insertAscending e.1 e.2 es) old

theorem ascending_insertAll (new : List Named) :
    ∀ {old}, Ascending old → Ascending (insertAll old new) := by
  induction new with
  | nil => exact fun h => h
  | cons e new ih => exact fun h => ih h.insertAscending

/-- A name beyond all others is inserted last. -/
theorem insertAscending_last {key : String} (value : Value) {es : List Named}
    (h : ∀ e ∈ es, e.1 < key) : insertAscending key value es = es ++ [(key, value)] := by
  induction es with
  | nil => rfl
  | cons e es ih =>
      have hlt : e.1 < key := h e List.mem_cons_self
      have hne : key ≠ e.1 := fun heq => String.lt_irrefl key (heq ▸ hlt)
      unfold insertAscending
      rw [if_neg (String.lt_asymm hlt), if_neg hne,
        ih fun d hd => h d (List.mem_cons_of_mem e hd)]
      rfl

theorem insertAll_append (new : List Named) :
    ∀ old, Ascending (old ++ new) → insertAll old new = old ++ new := by
  induction new with
  | nil => intro old _; rw [List.append_nil]; rfl
  | cons e new ih =>
      intro old h
      -- what is inserted next ascends beyond all that was inserted before
      have hlast : insertAscending e.1 e.2 old = old ++ [e] :=
        insertAscending_last e.2 fun d hd =>
          (List.pairwise_append.1 h).2.2 d hd e List.mem_cons_self
      show insertAll (insertAscending e.1 e.2 old) new = _
      rw [hlast, ih (old ++ [e]) (by simpa using h)]
      simp

/-- Values whose names ascend are inserted as they stand. -/
theorem insertAll_ascending {es : List Named} (h : Ascending es) : insertAll [] es = es :=
  insertAll_append es [] h

/-- Names that ascend are different. -/
theorem Ascending.nodup {es : List Named} (h : Ascending es) : (es.map Prod.fst).Nodup := by
  rw [List.nodup_iff_pairwise_ne, List.pairwise_map]
  exact h.imp fun hlt => String.ne_of_lt hlt

/-! ## §3. Values under their names. -/

theorem lookup_map (f : Value → Value) (name : String) (es : List Named) :
    (es.map fun e => (e.1, f e.2)).lookup name = (es.lookup name).map f := by
  induction es with
  | nil => rfl
  | cons e es ih =>
      rw [List.map_cons, lookup_first, lookup_first, ih]
      split <;> rfl

/-- Among different names the values are those found under their names. -/
theorem mem_iff_lookup {es : List Named} (h : (es.map Prod.fst).Nodup) {name : String}
    {value : Value} : (name, value) ∈ es ↔ es.lookup name = some value := by
  induction es with
  | nil => simp
  | cons e es ih =>
      obtain ⟨hfirst, hrest⟩ := List.nodup_cons.1 h
      rw [List.mem_cons, lookup_first]
      by_cases hname : name = e.1
      · rw [if_pos hname, Option.some.injEq]
        constructor
        · rintro (rfl | hmem)
          · rfl
          -- the first name does not come again
          · exact absurd (hname ▸ List.mem_map_of_mem hmem) hfirst
        · intro hvalue
          exact .inl (Prod.ext hname hvalue.symm)
      · rw [if_neg hname, ← ih hrest]
        constructor
        · rintro (rfl | hmem)
          · exact absurd rfl hname
          · exact hmem
        · exact .inr

theorem Ascending.mem_iff {es : List Named} (h : Ascending es) {name : String} {value : Value} :
    (name, value) ∈ es ↔ es.lookup name = some value :=
  mem_iff_lookup h.nodup

theorem lookup_none {name : String} {es : List Named} (h : name ∉ es.map Prod.fst) :
    es.lookup name = none := by
  rw [List.lookup_eq_none_iff]
  intro e he
  rw [bne_iff_ne]
  intro heq
  subst heq
  exact h (List.mem_map_of_mem he)

theorem lookup_insertAll {new : List Named} (h : (new.map Prod.fst).Nodup) (old : List Named)
    (name : String) :
    (insertAll old new).lookup name = (new.lookup name).or (old.lookup name) := by
  induction new generalizing old with
  | nil => rfl
  | cons e new ih =>
      obtain ⟨hfirst, hrest⟩ := List.nodup_cons.1 h
      show (insertAll (insertAscending e.1 e.2 old) new).lookup name = _
      rw [ih hrest, lookup_insertAscending, lookup_first]
      by_cases hname : name = e.1
      -- the name is not among the others, which could take its value away
      · rw [if_pos hname, if_pos hname, lookup_none (hname ▸ hfirst)]
        rfl
      · rw [if_neg hname, if_neg hname]

/-- Values under different names are all there once they are inserted. -/
theorem mem_insertAll {new : List Named} (h : (new.map Prod.fst).Nodup) {name : String}
    {value : Value} : (name, value) ∈ insertAll [] new ↔ (name, value) ∈ new := by
  rw [(ascending_insertAll new List.Pairwise.nil).mem_iff, lookup_insertAll h, mem_iff_lookup h]
  simp

end ClusterBoot
