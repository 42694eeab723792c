/-
  ClusterBoot.Proofs.Yaml.Documents
  ────────────────────────────────
  **THE VALUES THAT DOCUMENTS HOLD ARE WELL-FORMED.**

  Whatever a text is, the values of its documents are `WellFormed`
  (`wellFormed_of_documents?`): a floating-point number is only made from
  the spelling of one, and a mapping is made by entering entries, so it has
  no key twice.  The reader keeps the values of named nodes for their
  aliases, so its state must hold such values only (`Reader.Sound`).
-/
import ClusterBoot.Proofs.Yaml.Reread
import ClusterBoot.Yaml.Stream

namespace ClusterBoot.Yaml

open Value (WellFormed)

/-! ## §1. Values made of well-formed ones. -/

theorem wellFormed_ofPlain (s : String) : (Value.ofPlain s).WellFormed := by
  unfold Value.ofPlain
  split
  · exact .int _
  split
  · exact .null
  split
  · exact .bool _
  split
  · exact .int _
  split
  · rename_i h
    exact .real h
  · exact .str s

theorem wellFormed_ofTagged (handle suffix s : String) :
    (Value.ofTagged handle suffix s).WellFormed := by
  unfold Value.ofTagged
  split
  · exact .str s
  split
  · split
    · exact .bool _
    · exact .bad
  split
  · split
    · exact .int _
    · exact .bad
  split
  · split
    · rename_i h
      exact .real h
    · exact .bad
  split
  · split
    · exact .null
    · exact .bad
  · exact .str s

theorem wellFormed_ofScalar (plain : Bool) (tag : Option (String × String)) (s : String) :
    (Value.ofScalar plain tag s).WellFormed := by
  unfold Value.ofScalar
  split
  · exact .str s
  · split
    · exact wellFormed_ofTagged _ _ s
    · exact wellFormed_ofPlain s

/-- A key is entered once, whatever entries there are. -/
theorem nodup_insertEntry {key value : Value} {es : List Entry} (h : (es.map Prod.fst).Nodup) :
    ((Value.insertEntry key value es).map Prod.fst).Nodup := by
  unfold Value.insertEntry
  rw [List.map_append, List.nodup_append]
  refine ⟨h.sublist (List.Sublist.map _ List.filter_sublist), by simp, ?_⟩
  intro k hk k' hk' heq
  obtain ⟨e, he, rfl⟩ := List.mem_map.1 hk
  have hne := (List.mem_filter.1 he).2
  rw [List.map_cons, List.map_nil, List.mem_singleton] at hk'
  simp [heq, hk'] at hne

theorem wellFormed_ofEntries {es : List Entry}
    (h : ∀ e ∈ es, e.1.WellFormed ∧ e.2.WellFormed) : (Value.ofEntries es).WellFormed := by
  -- every entry that is kept was entered
  have hmem : ∀ e ∈ es.foldl (fun es e => Value.insertEntry e.1 e.2 es) [],
      e.1.WellFormed ∧ e.2.WellFormed :=
    fun e he => h e ((Value.enter_sublist es []).subset he)
  have honce : ∀ (es acc : List Entry), (acc.map Prod.fst).Nodup →
      ((es.foldl (fun es e => Value.insertEntry e.1 e.2 es) acc).map Prod.fst).Nodup := by
    intro es
    induction es with
    | nil => intro acc hacc; exact hacc
    | cons e es ih => intro acc hacc; exact ih _ (nodup_insertEntry hacc)
  exact .map (honce es [] List.nodup_nil) (fun e he => (hmem e he).1) (fun e he => (hmem e he).2)

theorem wellFormed_pairNodes (vs : List Value) :
    ∀ {key : Value}, key.WellFormed → (∀ v ∈ vs, v.WellFormed) →
      ∀ e ∈ pairNodes key vs, e.1.WellFormed ∧ e.2.WellFormed := by
  induction vs with
  | nil => intro key _ _ e he; cases he
  | cons v vs ih =>
      intro key hkey hvs e he
      have hv := hvs v List.mem_cons_self
      have hrest := fun w hw => hvs w (List.mem_cons_of_mem v hw)
      unfold pairNodes at he
      split at he
      -- an unresolved node counts as a missing key, so the next node becomes the key
      · exact ih hv hrest e he
      · rcases List.mem_cons.1 he with rfl | he
        · exact ⟨hkey, hv⟩
        · exact ih .bad hrest e he

theorem wellFormed_mappingOfNodes {vs : List Value} (h : ∀ v ∈ vs, v.WellFormed) :
    (mappingOfNodes vs).WellFormed :=
  wellFormed_ofEntries (wellFormed_pairNodes vs .bad h)

/-! ## §2. The state of a reader. -/

/-- The named nodes are well-formed. -/
def Reader.Sound (r : Reader) : Prop :=
  ∀ p ∈ r.values, p.2.WellFormed

/-- What is read, if anything, satisfies `P`, and the reader stays sound. -/
def Yields {α : Type} (P : α → Prop) (x : Option (α × Reader)) : Prop :=
  ∀ a r, x = some (a, r) → P a ∧ r.Sound

namespace Yields

variable {α β : Type} {P : α → Prop} {Q : β → Prop} {x : Option (α × Reader)}

theorem none : Yields P (none : Option (α × Reader)) := by
  intro a r h
  cases h

theorem some {a : α} {r : Reader} (ha : P a) (hr : r.Sound) : Yields P (some (a, r)) := by
  intro b r' h
  cases h
  exact ⟨ha, hr⟩

theorem bind {f : α × Reader → Option (β × Reader)} (h : Yields P x)
    (g : ∀ a r, P a → r.Sound → Yields Q (f (a, r))) : Yields Q (x.bind f) := by
  intro b r hb
  obtain ⟨⟨a, r'⟩, hx, hf⟩ := Option.bind_eq_some_iff.1 hb
  obtain ⟨ha, hr'⟩ := h a r' hx
  exact g a r' ha hr' b r hf

theorem map {f : α × Reader → β × Reader} (h : Yields P x)
    (g : ∀ a r, P a → r.Sound → Q (f (a, r)).1 ∧ (f (a, r)).2.Sound) : Yields Q (x.map f) := by
  intro b r hb
  obtain ⟨⟨a, r'⟩, hx, hf⟩ := Option.map_eq_some_iff.1 hb
  obtain ⟨ha, hr'⟩ := h a r' hx
  have hg := g a r' ha hr'
  rw [hf] at hg
  exact hg

end Yields

namespace Reader

theorem Sound.skip {r : Reader} (h : r.Sound) : r.skip.Sound := h

theorem Sound.define {r : Reader} (h : r.Sound) {v : Value} (hv : v.WellFormed)
    (number : Option Nat) : (r.define number v).Sound := by
  cases number with
  | none => exact h
  | some i => exact List.forall_mem_cons.2 ⟨hv, h⟩

theorem Sound.alias? {r : Reader} (h : r.Sound) (s : String) :
    Yields WellFormed ((r.alias? s).map fun v => (v, r.skip)) := by
  intro v r' heq
  obtain ⟨w, hw, hpair⟩ := Option.map_eq_some_iff.1 heq
  cases hpair
  refine ⟨?_, h.skip⟩
  obtain ⟨i, -, rfl⟩ := Option.map_eq_some_iff.1 hw
  cases hi : r.values.lookup i with
  | none => exact .bad
  | some u =>
      -- an alias gives a value that was kept for its name
      obtain ⟨before, after, heq, -⟩ := List.lookup_eq_some_iff.1 hi
      exact h (i, u) (by rw [heq]; simp)

end Reader

theorem sound_readProperties {r : Reader} (h : r.Sound) : (readProperties r).2.Sound := by
  unfold readProperties
  split
  · dsimp only
    split
    · exact h
    · exact h
  · dsimp only
    split
    · exact h
    · exact h
  · exact h

theorem yields_missing {r : Reader} (h : r.Sound) (props : Properties) :
    Yields WellFormed (missing props r) := by
  have hv := wellFormed_ofScalar true props.tag ""
  unfold missing
  split
  · exact .some hv (h.define hv props.number)
  · exact .none

/-! ## §3. Nodes. -/

/-- All values of a list are well-formed. -/
def AllWellFormed (vs : List Value) : Prop :=
  ∀ v ∈ vs, v.WellFormed

theorem AllWellFormed.cons {v : Value} {vs : List Value} (hv : v.WellFormed)
    (hvs : AllWellFormed vs) : AllWellFormed (v :: vs) :=
  List.forall_mem_cons.2 ⟨hv, hvs⟩

theorem allWellFormed_nil : AllWellFormed [] := by
  intro v hv
  cases hv

/-- Every reading function yields well-formed values when it has fuel `n`. -/
structure SoundAt (n : Nat) : Prop where
  node : ∀ (block flat : Bool) {r : Reader}, r.Sound → Yields WellFormed (readNode block flat n r)
  nodeUnless : ∀ (ends : Token → Bool) (block flat : Bool) {r : Reader}, r.Sound →
    Yields WellFormed (readNodeUnless ends block flat n r)
  blockItems : ∀ {r : Reader}, r.Sound → Yields AllWellFormed (readBlockItems n r)
  flatItems : ∀ {r : Reader}, r.Sound → Yields AllWellFormed (readFlatItems n r)
  blockParts : ∀ {r : Reader}, r.Sound → Yields AllWellFormed (readBlockParts n r)
  blockValue : ∀ {r : Reader}, r.Sound → Yields WellFormed (readBlockValue n r)
  flowItems : ∀ (first : Bool) {r : Reader}, r.Sound → Yields AllWellFormed (readFlowItems first n r)
  flowItem : ∀ {r : Reader}, r.Sound → Yields AllWellFormed (readFlowItem n r)
  flowParts : ∀ (first : Bool) {r : Reader}, r.Sound → Yields AllWellFormed (readFlowParts first n r)
  flowPart : ∀ {r : Reader}, r.Sound → Yields AllWellFormed (readFlowPart n r)
  flowValue : ∀ {r : Reader}, r.Sound → Yields WellFormed (readFlowValue n r)

namespace SoundAt

theorem zero : SoundAt 0 := by
  constructor <;> intros <;> exact .none

variable {n : Nat} {r : Reader}

theorem node_succ (h : SoundAt n) (block flat : Bool) (hr : r.Sound) :
    Yields WellFormed (readNode block flat (n + 1) r) := by
  rw [readNode]
  split
  · exact hr.alias? _
  · have hr' := sound_readProperties hr
    -- the properties only name and tag the node; all that matters is the sound reader behind them
    generalize readProperties r = read at hr'
    obtain ⟨props, r'⟩ := read
    have hmade : ∀ {v : Value} {s : Reader}, v.WellFormed → s.Sound →
        v.WellFormed ∧ (s.define props.number v).Sound :=
      fun hv hs => ⟨hv, hs.define hv props.number⟩
    dsimp only at hr' ⊢
    split
    -- a scalar; the cases that follow are a list without indentation, the two
    -- bracketed collections, the two block collections and a missing node
    · rename_i plain s _
      have hv := wellFormed_ofScalar plain props.tag s
      exact .some hv (hr'.skip.define hv props.number)
    · split
      · exact (h.flatItems hr').map fun vs s hvs hs => hmade (.list hvs) hs
      · exact yields_missing hr' props
    · exact (h.flowItems true hr'.skip).map fun vs s hvs hs => hmade (.list hvs) hs
    · exact (h.flowParts true hr'.skip).map fun vs s hvs hs =>
        hmade (wellFormed_mappingOfNodes hvs) hs
    · split
      · exact (h.blockItems hr'.skip).map fun vs s hvs hs => hmade (.list hvs) hs
      · exact yields_missing hr' props
    · split
      · exact (h.blockParts hr'.skip).map fun vs s hvs hs =>
          hmade (wellFormed_mappingOfNodes hvs) hs
      · exact yields_missing hr' props
    · exact yields_missing hr' props

theorem nodeUnless_succ (h : SoundAt n) (ends : Token → Bool) (block flat : Bool) (hr : r.Sound) :
    Yields WellFormed (readNodeUnless ends block flat (n + 1) r) := by
  rw [readNodeUnless]
  split
  · exact .some .null hr
  · exact h.node block flat hr

theorem blockItems_succ (h : SoundAt n) (hr : r.Sound) :
    Yields AllWellFormed (readBlockItems (n + 1) r) := by
  rw [readBlockItems]
  split
  · exact .some allWellFormed_nil hr.skip
  · refine (h.nodeUnless _ true false hr.skip).bind fun v s hv hs => ?_
    exact (h.blockItems hs).bind fun vs t hvs ht => .some (hvs.cons hv) ht
  · exact .none

theorem flatItems_succ (h : SoundAt n) (hr : r.Sound) :
    Yields AllWellFormed (readFlatItems (n + 1) r) := by
  rw [readFlatItems]
  split
  · refine (h.nodeUnless _ true false hr.skip).bind fun v s hv hs => ?_
    exact (h.flatItems hs).bind fun vs t hvs ht => .some (hvs.cons hv) ht
  · exact .some allWellFormed_nil hr

theorem blockParts_succ (h : SoundAt n) (hr : r.Sound) :
    Yields AllWellFormed (readBlockParts (n + 1) r) := by
  rw [readBlockParts]
  split
  · exact .some allWellFormed_nil hr.skip
  · refine (h.nodeUnless _ true true hr.skip).bind fun k s hk hs => ?_
    refine (h.blockValue hs).bind fun v t hv ht => ?_
    exact (h.blockParts ht).bind fun vs u hvs hu => .some ((hvs.cons hv).cons hk) hu
  -- a value without its key, which is null then
  · refine (h.blockValue hr).bind fun v t hv ht => ?_
    exact (h.blockParts ht).bind fun vs u hvs hu => .some ((hvs.cons hv).cons .null) hu
  · exact .none

theorem blockValue_succ (h : SoundAt n) (hr : r.Sound) :
    Yields WellFormed (readBlockValue (n + 1) r) := by
  rw [readBlockValue]
  split
  · exact h.nodeUnless _ true true hr.skip
  · exact .some .null hr

theorem flowItems_succ (h : SoundAt n) (first : Bool) (hr : r.Sound) :
    Yields AllWellFormed (readFlowItems first (n + 1) r) := by
  rw [readFlowItems]
  split
  · exact .some allWellFormed_nil hr.skip
  split
  · exact h.flowItem hr
  split
  · exact h.flowItem hr.skip
  · exact .none

/-- The value of a pair in brackets, which may be missing, and the items after
the pair. -/
theorem pairValue (h : SoundAt n) {k : Value} (hk : k.WellFormed) (hr : r.Sound) :
    Yields AllWellFormed (do
      let (v, r) ←
        match r.peek with
        | some .value => readNodeUnless endsPairValue false false n r.skip
        | _ => some (.null, r)
      let (vs, r) ← readFlowItems false n r
      return (mappingOfNodes [k, v] :: vs, r)) := by
  have hrest : ∀ {v : Value} {s : Reader}, v.WellFormed → s.Sound →
      Yields AllWellFormed ((readFlowItems false n s).bind fun (vs, r) =>
        some (mappingOfNodes [k, v] :: vs, r)) := by
    intro v s hv hs
    have hpair : (mappingOfNodes [k, v]).WellFormed :=
      wellFormed_mappingOfNodes ((allWellFormed_nil.cons hv).cons hk)
    exact (h.flowItems false hs).bind fun vs t hvs ht => .some (hvs.cons hpair) ht
  dsimp only
  split
  · exact (h.nodeUnless _ false false hr.skip).bind fun v s hv hs => hrest hv hs
  · exact hrest .null hr

theorem flowItem_succ (h : SoundAt n) (hr : r.Sound) :
    Yields AllWellFormed (readFlowItem (n + 1) r) := by
  rw [readFlowItem]
  split
  · exact .some allWellFormed_nil hr.skip
  · dsimp only
    split
    · exact h.pairValue .null hr.skip.skip
    · exact (h.node false false hr.skip).bind fun k s hk hs => h.pairValue hk hs
  · refine (h.node false false hr).bind fun v s hv hs => ?_
    exact (h.flowItems false hs).bind fun vs t hvs ht => .some (hvs.cons hv) ht

theorem flowParts_succ (h : SoundAt n) (first : Bool) (hr : r.Sound) :
    Yields AllWellFormed (readFlowParts first (n + 1) r) := by
  rw [readFlowParts]
  split
  · exact .some allWellFormed_nil hr.skip
  split
  · exact h.flowPart hr
  split
  · exact h.flowPart hr.skip
  · exact .none

theorem flowPart_succ (h : SoundAt n) (hr : r.Sound) :
    Yields AllWellFormed (readFlowPart (n + 1) r) := by
  rw [readFlowPart]
  split
  · exact .some allWellFormed_nil hr.skip
  · refine (h.nodeUnless _ false false hr.skip).bind fun k s hk hs => ?_
    refine (h.flowValue hs).bind fun v t hv ht => ?_
    exact (h.flowParts false ht).bind fun vs u hvs hu => .some ((hvs.cons hv).cons hk) hu
  · refine (h.flowValue hr).bind fun v t hv ht => ?_
    exact (h.flowParts false ht).bind fun vs u hvs hu => .some ((hvs.cons hv).cons .null) hu
  · refine (h.node false false hr).bind fun k s hk hs => ?_
    exact (h.flowParts false hs).bind fun vs u hvs hu => .some ((hvs.cons .null).cons hk) hu

theorem flowValue_succ (h : SoundAt n) (hr : r.Sound) :
    Yields WellFormed (readFlowValue (n + 1) r) := by
  rw [readFlowValue]
  split
  · exact h.nodeUnless _ false false hr.skip
  · exact .some .null hr

theorem all (n : Nat) : SoundAt n := by
  induction n with
  | zero => exact zero
  | succ n ih =>
      exact ⟨fun block flat _ => ih.node_succ block flat,
        fun ends block flat _ => ih.nodeUnless_succ ends block flat, ih.blockItems_succ,
        ih.flatItems_succ, ih.blockParts_succ, ih.blockValue_succ,
        fun first _ => ih.flowItems_succ first, ih.flowItem_succ,
        fun first _ => ih.flowParts_succ first, ih.flowPart_succ, ih.flowValue_succ⟩

end SoundAt

/-! ## §4. Documents. -/

theorem wellFormed_readNode {ts ts' : List Token} {v : Value} {n : Nat}
    (h : (readNode true false n ⟨ts, [], [], 1⟩).map (fun (v, r) => (v, r.tokens)) = some (v, ts')) :
    v.WellFormed := by
  obtain ⟨⟨w, r⟩, hread, hpair⟩ := Option.map_eq_some_iff.1 h
  cases hpair
  -- no node is named yet
  have hstart : (⟨ts, [], [], 1⟩ : Reader).Sound := by
    intro p hp
    cases hp
  exact ((SoundAt.all n).node true false hstart _ r hread).1

theorem wellFormed_readContent {ts ts' : List Token} {v : Value}
    (h : readContent ts = some (v, ts')) : v.WellFormed := by
  unfold readContent at h
  split at h
  · cases h
    exact .null
  · split at h
    · cases h
      exact .null
    · exact wellFormed_readNode h

theorem wellFormed_readDocument {first : Bool} {ts ts' : List Token} {v : Value}
    (h : readDocument first ts = some (v, ts')) : v.WellFormed := by
  unfold readDocument at h
  split at h
  · split at h
    · exact wellFormed_readContent h
    · cases h
  · split at h
    · exact wellFormed_readContent h
    · cases h
  · split at h
    · exact wellFormed_readNode h
    · cases h

theorem wellFormed_readDocuments (n : Nat) :
    ∀ {first : Bool} {ts : List Token} {docs : List Value},
      readDocuments first n ts = some docs → ∀ v ∈ docs, v.WellFormed := by
  induction n with
  | zero => intro first ts docs h; cases h
  | succ n ih =>
      intro first ts docs h
      unfold readDocuments at h
      split at h
      · cases h
        intro v hv
        cases hv
      · obtain ⟨⟨v, ts'⟩, hdoc, hrest⟩ := Option.bind_eq_some_iff.1 h
        obtain ⟨vs, hvs, hpure⟩ := Option.bind_eq_some_iff.1 hrest
        cases hpure
        exact List.forall_mem_cons.2 ⟨wellFormed_readDocument hdoc, ih hvs⟩

/-- **The values of the documents of a text are well-formed.** -/
theorem wellFormed_of_documents? {s : String} {docs : List Value} (h : documents? s = some docs) :
    ∀ v ∈ docs, v.WellFormed := by
  obtain ⟨ts, -, hdocs⟩ := Option.bind_eq_some_iff.1 h
  exact wellFormed_readDocuments _ hdocs

end ClusterBoot.Yaml
