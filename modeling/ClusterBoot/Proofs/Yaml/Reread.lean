/-
  ClusterBoot.Proofs.Yaml.Reread
  ────────────────────────────────
  **WHAT A VALUE BECOMES WHEN IT IS WRITTEN AND READ AGAIN.**

  `reread` is that value, by what its scalars mean without quotes, and
  `keysFit` says whether the text can be read at all: a key longer than
  `Lexer.keyReach` characters is not found to be a key.

  A value stays what it is exactly when it is `faithful`
  (`reread_eq_self_iff`): no unresolved node, no text that reads as a number,
  and no floating-point number that reads as a whole one.  That is about
  values as documents hold them (`WellFormed`).
-/
import ClusterBoot.Proofs.Yaml.Words
import ClusterBoot.Yaml.Lexer

namespace ClusterBoot.Yaml.Value

/-! ## §1. Well-formed values. -/

/-- The values that documents hold: floating-point numbers are spelled as
such, and a mapping has each key once. -/
inductive WellFormed : Value → Prop where
  | null : WellFormed .null
  | bad : WellFormed .bad
  | bool (b : Bool) : WellFormed (.bool b)
  | int (n : Int64) : WellFormed (.int n)
  | real {s : String} (spelled : isReal s = true) : WellFormed (.real s)
  | str (s : String) : WellFormed (.str s)
  | list {xs : List Value} (items : ∀ x ∈ xs, WellFormed x) : WellFormed (.list xs)
  | map {es : List Entry} (once : (es.map Prod.fst).Nodup)
      (keys : ∀ e ∈ es, WellFormed e.1) (values : ∀ e ∈ es, WellFormed e.2) :
      WellFormed (.map es)

/-! ## §2. Reading again. -/

mutual

/-- The value that a written value is read as. -/
def reread : Value → Value
  | null | bad => null
  | bool b => bool b
  | int n => int n
  | real s => .ofPlain s
  | str s => if needsQuotes s then str s else .ofPlain s
  | list xs => list (rereadItems xs)
  | map es => .ofEntries (rereadEntries es)

/-- The items of a list, each as it is read again. -/
def rereadItems : List Value → List Value
  | [] => []
  | x :: xs => reread x :: rereadItems xs

/-- The entries of a mapping, each as it is read again. -/
def rereadEntries : List (Value × Value) → List (Value × Value)
  | [] => []
  | (k, v) :: es => (reread k, reread v) :: rereadEntries es

end

mutual

/-- Whether every key that is a scalar is short enough to be found. -/
def keysFit : Value → Bool
  | list xs => keysFitItems xs
  | map es => keysFitEntries es
  | _ => true

/-- Whether the keys within the items of a list are short enough. -/
def keysFitItems : List Value → Bool
  | [] => true
  | x :: xs => keysFit x && keysFitItems xs

/-- Whether the keys of a mapping and those within them are short enough. -/
def keysFitEntries : List (Value × Value) → Bool
  | [] => true
  | (k, v) :: es =>
      (k.isCollection || decide ((write 0 k).length ≤ Lexer.keyReach))
        && keysFit k && keysFit v && keysFitEntries es

end

mutual

/-- Whether every scalar of a value means itself when it is read again. -/
def faithful : Value → Bool
  | bad => false
  | real s => (Text.readInt64? 10 s.toList).isNone
  | str s => !readsAsInt s && !readsAsReal s
  | list xs => faithfulItems xs
  | map es => faithfulEntries es
  | _ => true

/-- Whether the scalars of the items mean themselves. -/
def faithfulItems : List Value → Bool
  | [] => true
  | x :: xs => faithful x && faithfulItems xs

/-- Whether the scalars of the entries mean themselves. -/
def faithfulEntries : List (Value × Value) → Bool
  | [] => true
  | (k, v) :: es => faithful k && faithful v && faithfulEntries es

end

theorem rereadItems_eq (xs : List Value) : rereadItems xs = xs.map reread := by
  induction xs with
  | nil => rfl
  | cons x xs ih =>
      rw [rereadItems, ih]
      rfl

theorem rereadEntries_eq (es : List Entry) :
    rereadEntries es = es.map fun e => (reread e.1, reread e.2) := by
  induction es with
  | nil => rfl
  | cons e es ih =>
      rw [rereadEntries, ih]
      rfl

theorem faithfulItems_iff {xs : List Value} :
    faithfulItems xs = true ↔ ∀ x ∈ xs, faithful x = true := by
  induction xs with
  | nil => simp [faithfulItems]
  | cons x xs ih => rw [faithfulItems, Bool.and_eq_true, ih, List.forall_mem_cons]

theorem faithfulEntries_iff {es : List Entry} :
    faithfulEntries es = true ↔ ∀ e ∈ es, faithful e.1 = true ∧ faithful e.2 = true := by
  induction es with
  | nil => simp [faithfulEntries]
  | cons e es ih =>
      rw [faithfulEntries, Bool.and_eq_true, Bool.and_eq_true, ih, List.forall_mem_cons]

/-! ## §3. Mappings made of entries. -/

/-- Entering entries keeps what is entered, in order, or drops it. -/
theorem enter_sublist (es : List Entry) :
    ∀ acc, (es.foldl (fun es e => insertEntry e.1 e.2 es) acc).Sublist (acc ++ es) := by
  induction es with
  | nil => intro acc; simp
  | cons e es ih =>
      intro acc
      have hone : (insertEntry e.1 e.2 acc).Sublist (acc ++ [e]) :=
        List.Sublist.append List.filter_sublist (List.Sublist.refl _)
      have hall := (ih (insertEntry e.1 e.2 acc)).trans
        (hone.append (List.Sublist.refl es))
      simpa using hall

/-- Entries of different keys are all kept. -/
theorem enter_once (es : List Entry) :
    ∀ acc, ((acc ++ es).map Prod.fst).Nodup →
      es.foldl (fun es e => insertEntry e.1 e.2 es) acc = acc ++ es := by
  induction es with
  | nil => intro acc _; simp
  | cons e es ih =>
      intro acc h
      -- the new key is not among those entered before, so nothing is dropped for it
      have hne : ∀ d ∈ acc, d.1 ≠ e.1 := by
        intro d hd heq
        rw [List.map_append, List.nodup_append] at h
        exact h.2.2 d.1 (List.mem_map_of_mem hd) e.1 (by simp) heq
      have hone : insertEntry e.1 e.2 acc = acc ++ [e] := by
        unfold insertEntry
        rw [List.filter_eq_self.2 (fun d hd => by simpa using hne d hd)]
      show es.foldl _ (insertEntry e.1 e.2 acc) = _
      rw [hone, ih (acc ++ [e]) (by simpa using h)]
      simp

theorem ofEntries_once {es : List Entry} (h : (es.map Prod.fst).Nodup) :
    ofEntries es = map es := by
  unfold ofEntries
  rw [enter_once es [] h]
  rfl

/-- A mapping with as many entries as were entered has just those. -/
theorem eq_of_ofEntries {es ds : List Entry} (h : ofEntries es = map ds)
    (hlength : es.length = ds.length) : es = ds := by
  have hsub := enter_sublist es []
  unfold ofEntries at h
  rw [map.injEq] at h
  rw [h] at hsub
  exact (hsub.eq_of_length hlength.symm).symm

theorem mem_insertEntry_key {key value : Value} {es : List Entry} {k : Value} :
    k ∈ (insertEntry key value es).map Prod.fst ↔ k = key ∨ k ∈ es.map Prod.fst := by
  unfold insertEntry
  constructor
  · intro h
    obtain ⟨e, he, rfl⟩ := List.mem_map.1 h
    rcases List.mem_append.1 he with he | he
    · exact .inr (List.mem_map_of_mem (List.mem_filter.1 he).1)
    · rw [List.mem_singleton.1 he]
      exact .inl rfl
  · intro h
    rcases h with rfl | h
    · simp
    · obtain ⟨e, he, rfl⟩ := List.mem_map.1 h
      -- an entry is only dropped for one of the same key
      by_cases hkey : e.1 = key
      · rw [hkey]
        simp
      · exact List.mem_map_of_mem
          (List.mem_append.2 (.inl (List.mem_filter.2 ⟨he, by simpa using hkey⟩)))

/-- No key is lost when entries are entered. -/
theorem mem_enter_key {k : Value} (es : List Entry) :
    ∀ acc, k ∈ (es.foldl (fun es e => insertEntry e.1 e.2 es) acc).map Prod.fst
      ↔ k ∈ acc.map Prod.fst ∨ k ∈ es.map Prod.fst := by
  induction es with
  | nil => intro acc; simp
  | cons e es ih =>
      intro acc
      show k ∈ (es.foldl _ (insertEntry e.1 e.2 acc)).map Prod.fst ↔ _
      rw [ih, mem_insertEntry_key, List.map_cons, List.mem_cons]
      constructor
      · intro h
        rcases h with (h | h) | h
        · exact .inr (.inl h)
        · exact .inl h
        · exact .inr (.inr h)
      · intro h
        rcases h with h | h | h
        · exact .inl (.inr h)
        · exact .inl (.inl h)
        · exact .inr h

/-! ## §4. The values that stay what they are. -/

theorem reread_str {s : String} : (str s).reread = str s ↔ (str s).faithful = true := by
  simp only [reread, faithful, Bool.and_eq_true, Bool.not_eq_true']
  cases hq : needsQuotes s with
  | true =>
      simp only [if_true, true_iff]
      refine ⟨?_, ?_⟩
      · rw [Bool.eq_false_iff]
        intro h
        rw [needsQuotes_of_readsAsInt h] at hq
        cases hq
      · rw [Bool.eq_false_iff]
        intro h
        rw [needsQuotes_of_readsAsReal h] at hq
        cases hq
  | false =>
      simp only [Bool.false_eq_true, if_false]
      -- without quotes the text reads as a whole number, as another number or as itself
      rcases ofPlain_unquoted hq with ⟨hi, n, hn⟩ | ⟨hi, hr, hs⟩ | ⟨hi, hr, hs⟩
      · rw [hn, hi]
        simp
      · rw [hs, hr]
        simp
      · rw [hs, hi, hr]
        simp

theorem map_eq_self_iff {α : Type} {f : α → α} {xs : List α} :
    xs.map f = xs ↔ ∀ x ∈ xs, f x = x := by
  have h : xs.map f = xs.map id ↔ ∀ x ∈ xs, f x = id x := List.map_inj_left
  rwa [List.map_id] at h

/-- **A value is read again as itself exactly when it is faithful.** -/
theorem reread_eq_self_iff {v : Value} (h : v.WellFormed) : v.reread = v ↔ v.faithful = true := by
  induction h with
  | null => simp [reread, faithful]
  | bad => simp [reread, faithful]
  | bool b => simp [reread, faithful]
  | int n => simp [reread, faithful]
  | real hs =>
      rw [reread, faithful, ofPlain_real hs, Option.isNone_iff_eq_none]
  | str s => exact reread_str
  | @list xs _ ih =>
      rw [reread, faithful, list.injEq, rereadItems_eq, map_eq_self_iff, faithfulItems_iff]
      exact forall₂_congr ih
  | @map es once _ _ ihkeys ihvalues =>
      -- entry by entry a mapping stays what it is; that entering the entries again
      -- adds nothing to this needs that no key comes twice
      have hentries : rereadEntries es = es
          ↔ ∀ e ∈ es, e.1.faithful = true ∧ e.2.faithful = true := by
        rw [rereadEntries_eq, map_eq_self_iff]
        refine forall₂_congr fun e he => ?_
        rw [← ihkeys e he, ← ihvalues e he]
        exact Prod.ext_iff
      rw [reread, faithful, faithfulEntries_iff, ← hentries]
      constructor
      · intro heq
        exact eq_of_ofEntries heq (by rw [rereadEntries_eq, List.length_map])
      · intro heq
        rw [heq, ofEntries_once once]

end ClusterBoot.Yaml.Value
