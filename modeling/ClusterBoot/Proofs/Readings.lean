/-
  ClusterBoot.Proofs.Readings
  ────────────────────────────────
  **WHICH MAPPINGS ARE ROLE DOCUMENTS, AND WHAT IS READ FROM THEM.**

  An entry is `Proper` or it `Offends`, whatever was read before it.  So a
  mapping is read to its end, or up to the first entry that offends
  (`FirstOffence`), and its reason is reported.  What a mapping leaves in a
  document is said of its entries, key by key (`Holds`).  `reading_decided` puts
  this together for the documents of all texts; only the first of them counts.
-/
import ClusterBoot.Proofs.Representation
import Mathlib.Data.List.Forall2
import Mathlib.Data.List.Nodup

namespace ClusterBoot

open Yaml (Value Entry)

/-! ## §1. Texts of scalars. -/

/-- The text of a scalar. -/
inductive Yaml.Value.HasText : Value → String → Prop
  | str (s : String) : HasText (.str s) s
  | real (s : String) : HasText (.real s) s
  | int (n : Int64) : HasText (.int n) (toString n.toInt)
  | yes : HasText (.bool true) "true"
  | no : HasText (.bool false) "false"

theorem Yaml.Value.hasText_iff {v : Value} {s : String} :
    v.HasText s ↔ v.scalarText? = some s := by
  constructor
  · intro h
    cases h <;> rfl
  · intro h
    cases v with
    | str => cases h; exact .str _
    | real => cases h; exact .real _
    | int => cases h; exact .int _
    | bool b =>
        cases h
        cases b with
        | true => exact .yes
        | false => exact .no
    | null | bad | list | map => cases h

namespace Setting

variable {item? : Value → Option String} {Item : Value → String → Prop}

theorem text?_iff {v : Value} {s : String} : v = .str s ↔ text? v = some s := by
  cases v <;> simp [text?]

theorem itemTexts?_eq_some_iff (hitem : ∀ v s, Item v s ↔ item? v = some s) {vs : List Value}
    {items : List String} : itemTexts? item? vs = some items ↔ List.Forall₂ Item vs items := by
  induction vs generalizing items with
  | nil => simp [itemTexts?, List.forall₂_nil_left_iff, eq_comm]
  | cons v vs ih =>
      rw [List.forall₂_cons_left_iff, itemTexts?]
      cases hv : item? v with
      | none =>
          simp only [reduceCtorEq, false_iff, not_exists, not_and]
          intro s _ hs
          rw [hitem, hv] at hs
          cases hs
      | some s =>
          simp only [Option.map_eq_some_iff]
          constructor
          · rintro ⟨rest, hrest, rfl⟩
            exact ⟨s, rest, (hitem v s).2 hv, ih.1 hrest, rfl⟩
          · rintro ⟨t, rest, ht, hrest, rfl⟩
            rw [hitem, hv] at ht
            cases ht
            exact ⟨rest, ih.2 hrest, rfl⟩

/-- A value that fits no form of a setting. -/
structure Unfit (Item : Value → String → Prop) (v : Value) : Prop where
  notNull : v ≠ .null
  notText : ∀ s, v ≠ .str s
  notList : ∀ vs items, v = .list vs → ¬ List.Forall₂ Item vs items

theorem ofValue_eq_absent_iff {v : Value} : ofValue item? v = absent ↔ v = .null := by
  cases v with
  | list vs =>
      rw [ofValue_list]
      cases itemTexts? item? vs <;> simp
  | _ => simp [ofValue]

theorem ofValue_eq_list_iff (hitem : ∀ v s, Item v s ↔ item? v = some s) {v : Value}
    {items : List String} :
    ofValue item? v = list items ↔ ∃ vs, v = .list vs ∧ List.Forall₂ Item vs items := by
  cases v with
  | list vs => simp [ofValue_eq_list, itemTexts?_eq_some_iff hitem]
  | _ => simp [ofValue]

theorem ofValue_eq_other_iff (hitem : ∀ v s, Item v s ↔ item? v = some s) {v w : Value} :
    ofValue item? v = other w ↔ v = w ∧ Unfit Item v := by
  constructor
  · intro h
    refine ⟨eq_of_ofValue_other h, ?_, ?_, ?_⟩
    · intro hnull
      rw [ofValue_eq_absent_iff.2 hnull] at h
      cases h
    · intro s hs
      rw [ofValue_eq_single.2 hs] at h
      cases h
    · intro vs items hv hitems
      rw [(ofValue_eq_list_iff hitem).2 ⟨vs, hv, hitems⟩] at h
      cases h
  · rintro ⟨rfl, hunfit⟩
    -- what is unfit is none of the other three
    cases hsetting : ofValue item? v with
    | absent => exact absurd (ofValue_eq_absent_iff.1 hsetting) hunfit.notNull
    | single s => exact absurd (ofValue_eq_single.1 hsetting) (hunfit.notText s)
    | list items =>
        obtain ⟨vs, hv, hitems⟩ := (ofValue_eq_list_iff hitem).1 hsetting
        exact absurd hitems (hunfit.notList vs items hv)
    | other w => rw [eq_of_ofValue_other hsetting]

end Setting

namespace RoleDocument

/-! ## §2. Entries, one by one. -/

/-- The keys that must have a scalar. -/
def scalarKeys : List String := [tokenKey, serverKey]

/-- An entry that can be read: its key is a text, and what must be a scalar is
one or null. -/
def Proper (e : Entry) : Prop :=
  ∃ key, e.1 = .str key ∧ (key ∈ scalarKeys → e.2 = .null ∨ ∃ s, e.2.HasText s)

/-- An entry that cannot be read, and what is reported. -/
inductive Offends : Entry → String → Prop
  | key {key value : Value} (h : ∀ s, key ≠ .str s) :
      Offends (key, value) ("unsupported non-string key " ++ key.describe)
  | value {key : String} {value : Value} (hkey : key ∈ scalarKeys) (hnull : value ≠ .null)
      (h : ∀ s, ¬ value.HasText s) :
      Offends (.str key, value) ("'" ++ key ++ "' must be a scalar value")

/-- That reading stops with a reason. -/
def Reports (outcome : Except DocumentFault RoleDocument) (reason : String) : Prop :=
  ∃ fault, outcome = .error fault ∧ fault.message = reason

theorem proper_or_offends (e : Entry) : Proper e ∨ ∃ reason, Offends e reason := by
  obtain ⟨key, value⟩ := e
  by_cases htext : ∃ s, key = .str s
  case neg => exact .inr ⟨_, .key fun s hs => htext ⟨s, hs⟩⟩
  obtain ⟨s, rfl⟩ := htext
  by_cases hkey : s ∈ scalarKeys
  case neg => exact .inl ⟨s, rfl, fun h => absurd h hkey⟩
  by_cases hvalue : value = .null ∨ ∃ t, value.HasText t
  · exact .inl ⟨s, rfl, fun _ => hvalue⟩
  · obtain ⟨hnull, hscalar⟩ := not_or.1 hvalue
    exact .inr ⟨_, .value hkey hnull fun t ht => hscalar ⟨t, ht⟩⟩

section Step

variable {key : String} {value : Value}

theorem scalarSetting_none : scalarSetting key value = .ok none ↔ value = .null := by
  cases value <;> simp [scalarSetting, Value.scalarText?]

theorem scalarSetting_of_scalar (key : String) (h : value = .null ∨ ∃ s, value.HasText s) :
    ∃ t, scalarSetting key value = .ok t := by
  rcases h with rfl | ⟨s, hs⟩
  · exact ⟨none, rfl⟩
  · exact ⟨some s, scalarSetting_some.2 (Value.hasText_iff.1 hs)⟩

theorem scalarSetting_of_other (hnull : value ≠ .null) (h : ∀ s, ¬ value.HasText s) :
    scalarSetting key value = .error (.notScalar key) := by
  have hnone : value.scalarText? = none :=
    Option.eq_none_iff_forall_ne_some.2 fun s hs => h s (Value.hasText_iff.2 hs)
  unfold scalarSetting
  split
  · exact absurd rfl hnull
  · rw [hnone]

/-- A proper entry is read. -/
theorem Proper.addEntry_eq {e : Entry} (h : Proper e) (old : RoleDocument) :
    ∃ new, addEntry old e = .ok new := by
  obtain ⟨k, v⟩ := e
  obtain ⟨key, rfl, hscalar⟩ := h
  apply exists_addEntry
  intro hkey
  apply scalarSetting_of_scalar
  apply hscalar
  rcases hkey with rfl | rfl
  · decide
  · decide

/-- An entry that offends is reported. -/
theorem Offends.addEntry_eq {e : Entry} {reason : String} (h : Offends e reason)
    (old : RoleDocument) : Reports (addEntry old e) reason := by
  cases h with
  | @key k v h =>
      refine ⟨.keyNotText k, ?_, rfl⟩
      cases k with
      | str s => exact absurd rfl (h s)
      | _ => rfl
  | @value k v hkey hnull h =>
      refine ⟨.notScalar k, ?_, rfl⟩
      simp only [scalarKeys, List.mem_cons, List.not_mem_nil, or_false] at hkey
      rcases hkey with rfl | rfl
      · show (scalarSetting tokenKey v >>= fun t => .ok { old with token := t }) = _
        rw [scalarSetting_of_other hnull h]
        rfl
      · show (scalarSetting serverKey v >>= fun t => .ok { old with server := t }) = _
        rw [scalarSetting_of_other hnull h]
        rfl

end Step

/-! ## §3. Mappings, up to the first offence. -/

/-- The first entry of a mapping that offends, and what is reported. -/
def FirstOffence (es : List Entry) (reason : String) : Prop :=
  ∃ before e after, es = before ++ e :: after ∧ (∀ d ∈ before, Proper d) ∧ Offends e reason

theorem proper_or_firstOffence (es : List Entry) :
    (∀ e ∈ es, Proper e) ∨ ∃ reason, FirstOffence es reason := by
  induction es with
  | nil => exact .inl fun e he => absurd he List.not_mem_nil
  | cons e es ih =>
      rcases proper_or_offends e with hproper | ⟨reason, hoffends⟩
      · rcases ih with hall | ⟨reason, before, d, after, rfl, hbefore, hd⟩
        · exact .inl (List.forall_mem_cons.2 ⟨hproper, hall⟩)
        · exact .inr ⟨reason, e :: before, d, after, rfl,
            List.forall_mem_cons.2 ⟨hproper, hbefore⟩, hd⟩
      · exact .inr ⟨reason, [], e, es, rfl, fun d hd => absurd hd List.not_mem_nil, hoffends⟩

/-- Proper entries are read to the end. -/
theorem foldlM_of_proper {es : List Entry} (h : ∀ e ∈ es, Proper e) (old : RoleDocument) :
    ∃ new, es.foldlM addEntry old = .ok new := by
  induction es generalizing old with
  | nil => exact ⟨old, rfl⟩
  | cons e es ih =>
      obtain ⟨he, hes⟩ := List.forall_mem_cons.1 h
      obtain ⟨mid, hmid⟩ := he.addEntry_eq old
      obtain ⟨new, hnew⟩ := ih hes mid
      exact ⟨new, by rw [List.foldlM_cons, bind_eq_ok]; exact ⟨mid, hmid, hnew⟩⟩

/-- The first offence is reported. -/
theorem FirstOffence.foldlM_eq {es : List Entry} {reason : String} (h : FirstOffence es reason)
    (old : RoleDocument) : Reports (es.foldlM addEntry old) reason := by
  obtain ⟨before, e, after, rfl, hbefore, he⟩ := h
  obtain ⟨mid, hmid⟩ := foldlM_of_proper hbefore old
  obtain ⟨fault, hfault, hreason⟩ := he.addEntry_eq mid
  refine ⟨fault, ?_, hreason⟩
  rw [List.foldlM_append, hmid]
  show addEntry mid e >>= _ = _
  rw [hfault]
  rfl

/-! ## §4. What a mapping leaves in a document. -/

/-- What a key that must be a scalar leaves. -/
structure HoldsScalar (es : List Entry) (key : String) (field : Option String) : Prop where
  /-- Nothing is left exactly if the key is missing or null. -/
  none : field = none ↔ ∀ v, (Value.str key, v) ∈ es → v = .null
  /-- Otherwise it is the text of the scalar. -/
  some : ∀ s, field = some s ↔ ∃ v, (Value.str key, v) ∈ es ∧ v.HasText s

/-- What a key that may be a list leaves. -/
structure HoldsSetting (Item : Value → String → Prop) (es : List Entry) (key : String)
    (field : Setting) : Prop where
  /-- The setting is absent exactly if the key is missing or null. -/
  absent : field = .absent ↔ ∀ v, (Value.str key, v) ∈ es → v = .null
  /-- It is a text exactly for this text. -/
  single : ∀ s, field = .single s ↔ (Value.str key, .str s) ∈ es
  /-- It is a list exactly for a list of items. -/
  list : ∀ items, field = .list items
    ↔ ∃ vs, (Value.str key, .list vs) ∈ es ∧ List.Forall₂ Item vs items
  /-- It is kept as it stands exactly if it fits no form. -/
  other : ∀ v, field = .other v ↔ (Value.str key, v) ∈ es ∧ Setting.Unfit Item v

/-- What a mapping leaves in a document. -/
structure Holds (es : List Entry) (doc : RoleDocument) : Prop where
  token : HoldsScalar es tokenKey doc.token
  server : HoldsScalar es serverKey doc.server
  /-- The items of the plugins are texts. -/
  cni : HoldsSetting (fun v s => v = .str s) es cniKey doc.cni
  /-- The items of the names are scalars, and their texts are kept. -/
  tlsSan : HoldsSetting Value.HasText es tlsSanKey doc.tlsSan
  /-- The options are the other entries. -/
  options : ∀ key v, (key, v) ∈ doc.options.entries
    ↔ key ∉ reservedKeys ∧ (Value.str key, v) ∈ es

section Named

variable {ns : List Named} {key : String}

theorem mem_entryOf {v : Value} : (Value.str key, v) ∈ ns.map entryOf ↔ (key, v) ∈ ns := by
  rw [List.mem_map]
  constructor
  · rintro ⟨e, he, heq⟩
    obtain ⟨hkey, rfl⟩ := Prod.mk.inj heq
    exact Value.str.inj hkey ▸ he
  · intro h
    exact ⟨_, h, rfl⟩

/-- A mapping with texts as keys is one of named values. -/
theorem exists_named {es : List Entry} (h : ∀ e ∈ es, ∃ s, e.1 = .str s) :
    ∃ ns : List Named, es = ns.map entryOf := by
  induction es with
  | nil => exact ⟨[], rfl⟩
  | cons e es ih =>
      obtain ⟨⟨s, hs⟩, hes⟩ := List.forall_mem_cons.1 h
      obtain ⟨ns, rfl⟩ := ih hes
      exact ⟨(s, e.2) :: ns, by rw [List.map_cons, entryOf, ← hs]⟩

variable (hkeys : (ns.map Prod.fst).Nodup)
include hkeys

/-- A value is among the entries exactly if it is the one under its key. -/
theorem mem_entryOf_iff {v : Value} :
    (Value.str key, v) ∈ ns.map entryOf ↔ ns.lookup key = some v := by
  rw [mem_entryOf, mem_iff_lookup hkeys]

theorem holdsScalar_of_after {field : Option String}
    (h : scalarAfter key none (ns.lookup key) = .ok field) :
    HoldsScalar (ns.map entryOf) key field := by
  have hvalue := @mem_entryOf_iff ns key hkeys
  cases hlook : ns.lookup key with
  | none =>
      rw [hlook] at h hvalue
      cases h
      constructor <;> simp [hvalue]
  | some v =>
      rw [hlook] at h hvalue
      have hread : scalarSetting key v = .ok field := h
      constructor
      · simp only [hvalue, Option.some.injEq, forall_eq']
        rw [← @scalarSetting_none key, hread, Except.ok.injEq]
      · intro s
        simp only [hvalue, Option.some.injEq, exists_eq_left']
        rw [Value.hasText_iff, ← @scalarSetting_some key, hread, Except.ok.injEq]

theorem holdsSetting_of_after {item? : Value → Option String} {Item : Value → String → Prop}
    (hitem : ∀ v s, Item v s ↔ item? v = some s) :
    HoldsSetting Item (ns.map entryOf) key (settingAfter item? .absent (ns.lookup key)) := by
  have hvalue := @mem_entryOf_iff ns key hkeys
  cases hlook : ns.lookup key with
  | none =>
      rw [hlook] at hvalue
      constructor <;> simp [hvalue, settingAfter]
  | some v =>
      rw [hlook] at hvalue
      constructor
      · simp [hvalue, settingAfter, Setting.ofValue_eq_absent_iff]
      · intro s
        simp [hvalue, settingAfter, Setting.ofValue_eq_single]
      · intro items
        simp [hvalue, settingAfter, Setting.ofValue_eq_list_iff hitem]
      · intro w
        rw [hvalue, settingAfter, Setting.ofValue_eq_other_iff hitem, Option.some.injEq]
        exact and_congr_right fun heq => heq ▸ Iff.rfl

/-- **Named values that are read leave what they hold.** -/
theorem Updates.holds {doc : RoleDocument} (h : Updates empty doc ns) :
    Holds (ns.map entryOf) doc where
  token := holdsScalar_of_after hkeys h.token
  server := holdsScalar_of_after hkeys h.server
  cni := h.cni ▸ holdsSetting_of_after hkeys fun _ _ => Setting.text?_iff
  tlsSan := h.tlsSan ▸ holdsSetting_of_after hkeys fun _ _ => Value.hasText_iff
  options key v := by
    have hfiltered : ((ns.filter fun e => !isReservedKey e.1).map Prod.fst).Nodup :=
      hkeys.sublist ((List.filter_sublist).map _)
    rw [← h.options]
    show (key, v) ∈ insertAll [] _ ↔ _
    rw [mem_insertAll hfiltered, mem_entryOf, ← isReservedKey_iff, List.mem_filter]
    simp [and_comm]

end Named

/-! ## §5. Documents of texts. -/

/-- The entries that a stream of documents says something with: those of its first
document. -/
def entriesOf : List Value → List Entry
  | .map es :: _ => es
  | _ => []

/-- Streams whose first document is a role document. -/
inductive Acceptable : List Value → Prop
  | empty : Acceptable []
  | null (docs : List Value) : Acceptable (.null :: docs)
  | mapping {es : List Entry} {docs : List Value} (h : ∀ e ∈ es, Proper e) :
      Acceptable (.map es :: docs)

/-- Streams whose first document is none, and what is reported. -/
inductive Rejected : List Value → String → Prop
  | shape {v : Value} {docs : List Value} (hnull : v ≠ .null) (hmap : ∀ es, v ≠ .map es) :
      Rejected (v :: docs) "expected a mapping at the top level"
  | entry {es : List Entry} {docs : List Value} {reason : String} (h : FirstOffence es reason) :
      Rejected (.map es :: docs) reason

theorem acceptable_or_rejected (docs : List Value) :
    Acceptable docs ∨ ∃ reason, Rejected docs reason := by
  cases docs with
  | nil => exact .inl .empty
  | cons v docs =>
      cases v with
      | null => exact .inl (.null docs)
      | map es =>
          rcases proper_or_firstOffence es with hall | ⟨reason, hfirst⟩
          · exact .inl (.mapping hall)
          · exact .inr ⟨reason, .entry hfirst⟩
      | _ => exact .inr ⟨_, .shape (by simp) (by simp)⟩

theorem Acceptable.ofDocuments_eq {docs : List Value} (h : Acceptable docs) :
    ∃ doc, ofDocuments docs = .ok doc := by
  cases h with
  | empty => exact ⟨_, rfl⟩
  | null => exact ⟨_, rfl⟩
  | mapping h => exact foldlM_of_proper h RoleDocument.empty

theorem Rejected.ofDocuments_eq {docs : List Value} {reason : String} (h : Rejected docs reason) :
    Reports (ofDocuments docs) reason := by
  cases h with
  | @shape v docs hnull hmap =>
      refine ⟨.notMapping, ?_, rfl⟩
      cases v with
      | null => exact absurd rfl hnull
      | map es => exact absurd rfl (hmap es)
      | _ => rfl
  | entry h => exact h.foldlM_eq RoleDocument.empty

/-- What is read is what the first document holds. -/
theorem holds_of_ofDocuments {docs : List Value} (hdocs : ∀ v ∈ docs, v.WellFormed)
    {doc : RoleDocument} (h : ofDocuments docs = .ok doc) : Holds (entriesOf docs) doc := by
  have hkeys : (([] : List (String × Value)).map Prod.fst).Nodup := List.nodup_nil
  have hempty : Holds [] empty := Updates.holds hkeys (updates_nil.2 rfl)
  unfold ofDocuments at h
  split at h
  next =>
    cases h
    exact hempty
  next =>
    cases h
    exact hempty
  next es rest =>
    -- the keys of a mapping are different, so each has one value
    obtain ⟨ns, rfl⟩ := exists_named (keys_of_foldlM es _ h)
    have hkeys : (ns.map Prod.fst).Nodup := by
      cases hdocs _ List.mem_cons_self with
      | map once =>
          have hcomp : (ns.map entryOf).map Prod.fst = (ns.map Prod.fst).map Value.str := by
            rw [List.map_map, List.map_map]
            rfl
          exact List.Nodup.of_map Value.str (hcomp ▸ once)
    exact ((foldlM_addEntry_iff ns _ hkeys).1 h).holds hkeys
  next => cases h

theorem ofDocuments_congr {docs docs' : List Value} (h : docs'.head? = docs.head?) :
    ofDocuments docs' = ofDocuments docs := by
  cases docs with
  | nil => rw [List.head?_eq_none_iff.1 h]
  | cons v docs =>
      obtain ⟨rest, rfl⟩ := List.head?_eq_some_iff.1 h
      cases v <;> rfl

/-- How reading the documents of a text ends. -/
structure ReadingDecided (docs : List Value) (outcome : Except DocumentFault RoleDocument) :
    Prop where
  /-- It succeeds exactly if there is nothing to read, or a mapping that is proper. -/
  succeeds : (∃ doc, outcome = .ok doc) ↔ Acceptable docs
  /-- If not it reports the first offence, or that there is no mapping. -/
  fails : ∀ reason, Reports outcome reason ↔ Rejected docs reason
  /-- What is read is what the mapping holds. -/
  holds : ∀ doc, outcome = .ok doc → Holds (entriesOf docs) doc

/-- **A text is read as the role document that its first document holds, or the first
offence in it is reported**; later documents do not matter. -/
theorem reading_decided {text : String} {docs : List Value}
    (h : Yaml.documents? text = some docs) :
    ReadingDecided docs (ofText text)
      ∧ ∀ text' docs', Yaml.documents? text' = some docs' → docs'.head? = docs.head? →
          ofText text' = ofText text := by
  have hread : ∀ {text docs}, Yaml.documents? text = some docs →
      ofText text = ofDocuments docs := by
    intro text docs h
    rw [ofText, h]
  rw [hread h]
  refine ⟨⟨⟨?_, Acceptable.ofDocuments_eq⟩, fun reason => ⟨?_, Rejected.ofDocuments_eq⟩,
    fun doc => holds_of_ofDocuments (Yaml.wellFormed_of_documents? h)⟩, ?_⟩
  · rintro ⟨doc, hdoc⟩
    rcases acceptable_or_rejected docs with hacceptable | ⟨reason, hrejected⟩
    · exact hacceptable
    · obtain ⟨fault, hfault, -⟩ := hrejected.ofDocuments_eq
      rw [hfault] at hdoc
      cases hdoc
  · rintro ⟨fault, hfault, rfl⟩
    rcases acceptable_or_rejected docs with hacceptable | ⟨reason, hrejected⟩
    · obtain ⟨doc, hdoc⟩ := hacceptable.ofDocuments_eq
      rw [hdoc] at hfault
      cases hfault
    · obtain ⟨fault', hfault', hreason⟩ := hrejected.ofDocuments_eq
      rw [hfault'] at hfault
      cases hfault
      exact hreason ▸ hrejected
  · intro text' docs' h' hhead
    rw [hread h', ofDocuments_congr hhead]

/-- Numbers become texts, a list with a number is no list of plugins, and a second
document is not looked at. -/
theorem reading_decided_numbers :
    let text := "token: 12\nserver: ~\ncni: [multus, 6]\ntls-san: [6, x]\nopt: 1\n---\n- z\n"
    let docs : List Value :=
      [.map [(.str "token", .int 12), (.str "server", .null),
        (.str "cni", .list [.str "multus", .int 6]), (.str "tls-san", .list [.int 6, .str "x"]),
        (.str "opt", .int 1)], .list [.str "z"]]
    Yaml.documents? text = some docs ∧ ReadingDecided docs (ofText text) := by
  intro text docs
  have hdocs : Yaml.documents? text = some docs := by decide +kernel
  exact ⟨hdocs, (reading_decided hdocs).1⟩

end RoleDocument

end ClusterBoot
