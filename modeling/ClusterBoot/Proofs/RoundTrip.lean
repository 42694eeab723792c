/-
  ClusterBoot.Proofs.RoundTrip
  ────────────────────────────────
  **WHEN A ROLE DOCUMENT SURVIVES BEING WRITTEN.**

  A document that was read, written and read again is the same document
  exactly when every scalar in it means itself and no key is too long
  (`ofText_toText`).  A token or an address may look like a floating-point
  number, because its text is taken either way; it must not look like a whole
  number, because that is written in another way the second time.
-/
import ClusterBoot.Proofs.RoleDocuments
import ClusterBoot.Proofs.Yaml.Parsing

namespace ClusterBoot

open Yaml (Value Entry readsAsInt)

/-! ## §1. Texts. -/

theorem reread_eq_str {s t : String} (h : (Value.str s).reread = .str t) :
    (Value.str s).faithful = true := by
  cases hq : Yaml.needsQuotes s with
  | true =>
      rw [← Value.reread_str, Value.reread, if_pos hq]
  | false =>
      rw [Value.reread, hq, if_neg (by decide)] at h
      -- read as a number of either kind it would not be a text
      rcases Yaml.ofPlain_unquoted hq with ⟨-, n, hn⟩ | ⟨-, -, hs⟩ | ⟨hi, hr, -⟩
      · rw [hn] at h
        cases h
      · rw [hs] at h
        cases h
      · rw [Value.faithful, hi, hr]
        rfl

theorem text?_reread (s : String) :
    Setting.text? (Value.str s).reread = some s ↔ (Value.str s).faithful = true := by
  rw [← Value.reread_str]
  generalize (Value.str s).reread = v
  cases v <;> simp [Setting.text?]

/-- The decimal spelling of a number is not one of the other spellings. -/
theorem toString_ne {s : String} (h : readsAsInt s = true) (i : Int) : toString i ≠ s := by
  intro heq
  subst heq
  obtain ⟨c, d, r, hcs, hshape, -⟩ := Yaml.readsAsInt_shape h
  rcases hshape with ⟨-, rfl⟩ | ⟨rfl, -⟩
  · have ho : 'o' ∉ (toString i).toList := Text.not_mem_toString (by decide) (by decide)
    rw [hcs] at ho
    simp at ho
  · have hplus : '+' ∉ (toString i).toList := Text.not_mem_toString (by decide) (by decide)
    rw [hcs] at hplus
    simp at hplus

theorem scalarText?_reread (s : String) :
    (Value.str s).reread.scalarText? = some s ↔ (!readsAsInt s) = true := by
  rw [Bool.not_eq_true']
  cases hq : Yaml.needsQuotes s with
  | true =>
      have hint : readsAsInt s = false := by
        rw [Bool.eq_false_iff]
        intro h
        rw [Yaml.needsQuotes_of_readsAsInt h] at hq
        cases hq
      rw [Value.reread, hq, if_pos rfl, hint]
      simp [Value.scalarText?]
  | false =>
      rw [Value.reread, hq, if_neg (by decide)]
      rcases Yaml.ofPlain_unquoted hq with ⟨hi, n, hn⟩ | ⟨hi, -, hs⟩ | ⟨hi, -, hs⟩
      -- a whole number is spelled in decimal, which this text is not
      · rw [hn, hi]
        show some (toString n.toInt) = some s ↔ true = false
        rw [Option.some.injEq]
        constructor
        · intro heq
          exact absurd heq (toString_ne hi n.toInt)
        · intro heq
          cases heq
      · rw [hs, hi]
        simp [Value.scalarText?]
      · rw [hs, hi]
        simp [Value.scalarText?]

/-! ## §2. Settings. -/

namespace Setting

/-- Whether the scalars of a setting mean themselves, where `item` says which
texts do so as items of a list. -/
def faithful (item : String → Bool) : Setting → Bool
  | absent => true
  | single s => (Value.str s).faithful
  | list items => items.all item
  | other v => v.faithful

variable {item? : Value → Option String}

theorem ofValue_list (item? : Value → Option String) (vs : List Value) :
    ofValue item? (.list vs) = (itemTexts? item? vs).elim (other (.list vs)) list := by
  cases hitems : itemTexts? item? vs with
  | none => simp only [ofValue, hitems, Option.elim_none]
  | some items => simp only [ofValue, hitems, Option.elim_some]

theorem ofValue_eq_single {v : Value} {s : String} :
    ofValue item? v = single s ↔ v = .str s := by
  cases v with
  | list vs =>
      rw [ofValue_list]
      cases itemTexts? item? vs <;> simp
  | _ => simp [ofValue]

theorem ofValue_eq_list {vs : List Value} {items : List String} :
    ofValue item? (.list vs) = list items ↔ itemTexts? item? vs = some items := by
  rw [ofValue_list]
  cases itemTexts? item? vs <;> simp

theorem eq_of_ofValue_other {v w : Value} (h : ofValue item? v = other w) : v = w := by
  cases v with
  | list vs =>
      rw [ofValue_list] at h
      cases hitems : itemTexts? item? vs with
      | none =>
          rw [hitems] at h
          exact other.inj h
      | some items =>
          rw [hitems] at h
          cases h
  | null => cases h
  | str s => cases h
  | _ => exact other.inj h

theorem itemTexts?_map {f : String → Value} (items : List String) :
    itemTexts? item? (items.map f) = some items ↔ ∀ s ∈ items, item? (f s) = some s := by
  induction items with
  | nil => simp [itemTexts?]
  | cons s items ih =>
      rw [List.forall_mem_cons, ← ih, List.map_cons, itemTexts?]
      cases hs : item? (f s) with
      | none => simp
      | some t =>
          simp only [Option.map_eq_some_iff, List.cons.injEq, Option.some.injEq]
          constructor
          · intro h
            obtain ⟨ts, hts, rfl, rfl⟩ := h
            exact ⟨rfl, hts⟩
          · intro h
            obtain ⟨rfl, hts⟩ := h
            exact ⟨items, hts, rfl, rfl⟩

/-- A setting is found again exactly when its scalars mean themselves. -/
theorem settingAfter_reread {item : String → Bool}
    (hitem : ∀ s, item? (Value.str s).reread = some s ↔ item s = true) {setting : Setting}
    (h : ∃ v : Value, v.WellFormed ∧ ofValue item? v = setting) :
    RoleDocument.settingAfter item? absent (setting.toValue?.map Value.reread) = setting
      ↔ setting.faithful item = true := by
  cases setting with
  | absent => simp [toValue?, RoleDocument.settingAfter, faithful]
  | single s =>
      show ofValue item? (Value.str s).reread = single s ↔ (Value.str s).faithful = true
      rw [ofValue_eq_single, Value.reread_str]
  | list items =>
      show ofValue item? (Value.list (items.map .str)).reread = list items ↔ items.all item = true
      rw [Value.reread, ofValue_eq_list, Value.rereadItems_eq, List.map_map, itemTexts?_map,
        List.all_eq_true]
      exact forall₂_congr fun s _ => hitem s
  -- the value came from a text, so it is well-formed and `reread_eq_self_iff` applies
  | other v =>
      obtain ⟨w, hw, hv⟩ := h
      obtain rfl : w = v := eq_of_ofValue_other hv
      show ofValue item? w.reread = other w ↔ w.faithful = true
      rw [← Value.reread_eq_self_iff hw]
      constructor
      · exact eq_of_ofValue_other
      · intro heq
        rw [heq, hv]

end Setting

/-! ## §3. Writing a document and reading it. -/

namespace RoleDocument

variable {doc new : RoleDocument}

theorem wellFormed_toValue? {item? : Value → Option String} {setting : Setting} {w : Value}
    (h : ∃ v : Value, v.WellFormed ∧ Setting.ofValue item? v = setting)
    (hw : setting.toValue? = some w) : w.WellFormed := by
  cases setting with
  | absent => cases hw
  | single s =>
      cases hw
      exact .str s
  | list items =>
      cases hw
      refine .list fun x hx => ?_
      obtain ⟨s, -, rfl⟩ := List.mem_map.1 hx
      exact .str s
  | other v =>
      cases hw
      obtain ⟨v, hv, hother⟩ := h
      cases Setting.eq_of_ofValue_other hother
      exact hv

theorem wellFormed_text {o : Option String} {w : Value} (hw : o.map Value.str = some w) :
    w.WellFormed := by
  obtain ⟨s, -, rfl⟩ := Option.map_eq_some_iff.1 hw
  exact .str s

theorem Sound.wellFormed_namedValues (h : doc.Sound) : ∀ e ∈ doc.namedValues, e.2.WellFormed := by
  intro e he
  rcases mem_namedValues he with ⟨-, he⟩ | ⟨-, he⟩ | ⟨-, he⟩ | ⟨-, he⟩ | he
  · exact wellFormed_toValue? h.tlsSan he
  · exact wellFormed_toValue? h.cni he
  · exact wellFormed_text he
  · exact wellFormed_text he
  · exact h.values e he

/-- Entries of different names have different keys. -/
theorem nodup_entryOf {ns : List Named} (h : (ns.map Prod.fst).Nodup) :
    ((ns.map entryOf).map Prod.fst).Nodup := by
  rw [List.nodup_iff_pairwise_ne, List.pairwise_map, List.pairwise_map]
  rw [List.nodup_iff_pairwise_ne, List.pairwise_map] at h
  exact h.imp fun hne heq => hne (Value.str.inj heq)

theorem Sound.wellFormed (h : doc.Sound) : (Value.map doc.toMapping).WellFormed := by
  refine .map (nodup_entryOf (ascending_namedValues doc).nodup) ?_ ?_
  · intro e he
    obtain ⟨n, -, rfl⟩ := List.mem_map.1 he
    exact .str n.1
  · intro e he
    obtain ⟨n, hn, rfl⟩ := List.mem_map.1 he
    exact h.wellFormed_namedValues n hn

/-- The named values of a document as they are read again. -/
def rereadValues (doc : RoleDocument) : List Named :=
  doc.namedValues.map fun e => (e.1, e.2.reread)

theorem rereadValues_names (doc : RoleDocument) :
    doc.rereadValues.map Prod.fst = doc.namedValues.map Prod.fst := by
  rw [rereadValues, List.map_map]
  rfl

/-- Where the keys mean themselves, the mapping keeps them. -/
theorem reread_toMapping (h : ∀ e ∈ doc.namedValues, (Value.str e.1).faithful = true) :
    (Value.map doc.toMapping).reread = .map (doc.rereadValues.map entryOf) := by
  have hentries : Value.rereadEntries doc.toMapping = doc.rereadValues.map entryOf := by
    rw [Value.rereadEntries_eq, toMapping, rereadValues, List.map_map, List.map_map]
    refine List.map_congr_left fun e he => ?_
    show ((Value.str e.1).reread, e.2.reread) = (Value.str e.1, e.2.reread)
    rw [Value.reread_str.2 (h e he)]
  rw [Value.reread, hentries]
  refine Value.ofEntries_once (nodup_entryOf ?_)
  rw [rereadValues_names]
  exact (ascending_namedValues doc).nodup

/-- Where the mapping is read as a document, its keys mean themselves. -/
theorem keys_faithful (h : ofDocuments [(Value.map doc.toMapping).reread] = .ok new) :
    ∀ e ∈ doc.namedValues, (Value.str e.1).faithful = true := by
  intro e he
  rw [Value.reread, Value.ofEntries] at h
  -- no key is lost on the way, so a key that became a number would be a fault
  have hkeys := keys_of_foldlM _ empty h
  have hmem : (Value.str e.1).reread ∈ ((Value.rereadEntries doc.toMapping).foldl
      (fun es e => Value.insertEntry e.1 e.2 es) []).map Prod.fst := by
    rw [Value.mem_enter_key, Value.rereadEntries_eq]
    exact .inr (List.mem_map_of_mem (List.mem_map_of_mem (List.mem_map_of_mem he)))
  obtain ⟨d, hd, heq⟩ := List.mem_map.1 hmem
  obtain ⟨s, hs⟩ := hkeys d hd
  exact reread_eq_str (heq.symm.trans hs)

/-! ## §4. Documents that are read again as themselves. -/

/-- Whether the scalars of a document mean themselves.  As a token, as an
address and as an item of the names in the certificate, a floating-point
number does, because it is taken as a text. -/
def faithful (doc : RoleDocument) : Bool :=
  doc.token.all (!readsAsInt ·) && doc.server.all (!readsAsInt ·)
    && doc.cni.faithful (fun s => (Value.str s).faithful)
    && doc.tlsSan.faithful (!readsAsInt ·)
    && doc.options.entries.all fun e => (Value.str e.1).faithful && e.2.faithful

theorem scalarSetting_some {key : String} {v : Value} {s : String} :
    scalarSetting key v = .ok (some s) ↔ v.scalarText? = some s := by
  cases v with
  | null => simp [scalarSetting, Value.scalarText?]
  | _ => simp [scalarSetting, Value.scalarText?]

theorem scalarAfter_reread (key : String) (o : Option String) :
    scalarAfter key none ((o.map Value.str).map Value.reread) = .ok o
      ↔ o.all (!readsAsInt ·) = true := by
  cases o with
  | none => simp [scalarAfter]
  | some s =>
      show scalarSetting key (Value.str s).reread = .ok (some s) ↔ (!readsAsInt s) = true
      rw [scalarSetting_some, scalarText?_reread]

theorem Sound.options_reread (h : doc.Sound) :
    insertAll [] (doc.rereadValues.filter fun e => !isReservedKey e.1) = doc.options.entries
      ↔ ∀ e ∈ doc.options.entries, e.2.faithful = true := by
  have hfilter : doc.rereadValues.filter (fun e => !isReservedKey e.1)
      = doc.options.entries.map fun e => (e.1, e.2.reread) := by
    rw [rereadValues, List.filter_map, ← h.separate.filter_namedValues]
    rfl
  -- the names are the same, so their order is too
  have hascending : Ascending (doc.options.entries.map fun e => (e.1, e.2.reread)) := by
    unfold Ascending
    rw [List.pairwise_map]
    exact doc.options.ascending
  rw [hfilter, insertAll_ascending hascending, Value.map_eq_self_iff]
  refine forall₂_congr fun e he => ?_
  rw [← Value.reread_eq_self_iff (h.values e he)]
  constructor
  · intro heq
    exact congrArg Prod.snd heq
  · intro heq
    rw [heq]

theorem Sound.updates_reread (h : doc.Sound) :
    Updates empty doc doc.rereadValues
      ↔ doc.token.all (!readsAsInt ·) = true ∧ doc.server.all (!readsAsInt ·) = true
        ∧ doc.cni.faithful (fun s => (Value.str s).faithful) = true
        ∧ doc.tlsSan.faithful (!readsAsInt ·) = true
        ∧ ∀ e ∈ doc.options.entries, e.2.faithful = true := by
  have hlook : ∀ name, doc.rereadValues.lookup name
      = (doc.namedValues.lookup name).map Value.reread :=
    fun name => lookup_map Value.reread name doc.namedValues
  -- field by field, what the named values give is compared with what the document has
  rw [← scalarAfter_reread tokenKey, ← scalarAfter_reread serverKey,
    ← Setting.settingAfter_reread text?_reread h.cni,
    ← Setting.settingAfter_reread scalarText?_reread h.tlsSan, ← h.options_reread,
    ← h.separate.lookup_token, ← h.separate.lookup_server, ← h.separate.lookup_cni,
    ← h.separate.lookup_tlsSan, ← hlook, ← hlook, ← hlook, ← hlook]
  constructor
  · intro hup
    exact ⟨hup.token, hup.server, hup.cni, hup.tlsSan, hup.options⟩
  · intro h
    obtain ⟨htoken, hserver, hcni, htls, hoptions⟩ := h
    exact ⟨htoken, hserver, hcni, htls, hoptions⟩

theorem faithful_iff : doc.faithful = true
    ↔ (doc.token.all (!readsAsInt ·) = true ∧ doc.server.all (!readsAsInt ·) = true
        ∧ doc.cni.faithful (fun s => (Value.str s).faithful) = true
        ∧ doc.tlsSan.faithful (!readsAsInt ·) = true
        ∧ ∀ e ∈ doc.options.entries, e.2.faithful = true)
      ∧ ∀ e ∈ doc.options.entries, (Value.str e.1).faithful = true := by
  simp only [faithful, Bool.and_eq_true, List.all_eq_true, and_assoc, forall_and]
  constructor
  · intro h
    obtain ⟨htoken, hserver, hcni, htls, hkeys, hvalues⟩ := h
    exact ⟨htoken, hserver, hcni, htls, hvalues, hkeys⟩
  · intro h
    obtain ⟨htoken, hserver, hcni, htls, hvalues, hkeys⟩ := h
    exact ⟨htoken, hserver, hcni, htls, hkeys, hvalues⟩

/-- The keys that are understood mean themselves. -/
theorem namedValues_keys (h : ∀ e ∈ doc.options.entries, (Value.str e.1).faithful = true) :
    ∀ e ∈ doc.namedValues, (Value.str e.1).faithful = true := by
  intro e he
  rcases mem_namedValues he with ⟨he, -⟩ | ⟨he, -⟩ | ⟨he, -⟩ | ⟨he, -⟩ | he
  · rw [he]
    decide
  · rw [he]
    decide
  · rw [he]
    decide
  · rw [he]
    decide
  · exact h e he

theorem Sound.options_subset (h : doc.Sound) :
    ∀ e ∈ doc.options.entries, e ∈ doc.namedValues := by
  intro e he
  rw [← h.separate.filter_namedValues] at he
  exact (List.mem_filter.1 he).1

/-- **A document that was read, written and read again is the same document
exactly when its scalars mean themselves and its keys are short enough.** -/
theorem ofText_toText {text : String} {doc : RoleDocument} (h : ofText text = .ok doc) :
    ofText doc.toText = .ok doc
      ↔ doc.faithful = true ∧ (Value.map doc.toMapping).keysFit = true := by
  have hsound := sound_of_ofText h
  have hnodup : (doc.rereadValues.map Prod.fst).Nodup := by
    rw [rereadValues_names]
    exact (ascending_namedValues doc).nodup
  -- through the emitter, the lexer and the reader
  have hread : ofText doc.toText
      = if (Value.map doc.toMapping).keysFit then ofDocuments [(Value.map doc.toMapping).reread]
        else .error .malformed := by
    unfold ofText toText
    rw [Yaml.documents?_emit hsound.wellFormed]
    cases (Value.map doc.toMapping).keysFit <;> rfl
  rw [hread]
  cases (Value.map doc.toMapping).keysFit with
  | false => simp
  | true =>
      rw [if_pos rfl, faithful_iff, ← hsound.updates_reread, ← foldlM_addEntry_iff _ _ hnodup]
      constructor
      -- the mapping keeps its keys either way: reading it would fail, or they are faithful
      · intro hok
        have hkeys := keys_faithful hok
        rw [reread_toMapping hkeys] at hok
        exact ⟨⟨hok, fun e he => hkeys e (hsound.options_subset e he)⟩, rfl⟩
      · intro h
        obtain ⟨⟨hok, hkeys⟩, -⟩ := h
        rw [reread_toMapping (namedValues_keys hkeys)]
        exact hok

/-- An option whose text spells an octal number becomes that number. -/
theorem octal_text_lost :
    let doc : RoleDocument :=
      { empty with options := Options.empty.insert "opt" (.str "0o17") }
    let again : RoleDocument :=
      { empty with options := Options.empty.insert "opt" (.int 15) }
    ofText "opt: \"0o17\"\n" = .ok doc ∧ ofText doc.toText = .ok again ∧ again ≠ doc := by
  intro doc again
  refine ⟨eq_ok_of_toOption ?_, eq_ok_of_toOption ?_, ?_⟩
  · decide +kernel
  · decide +kernel
  · decide +kernel

/-- A token that looks like a floating-point number is kept, and so are
options that need quotes. -/
theorem ofText_toText_numericToken :
    let doc : RoleDocument :=
      { empty with
        token := some "1.50"
        options := Options.empty.insert "opt" (.list [.str "0x1F", .map [(.int 7, .str "on")]]) }
    ofText "token: 1.50\nopt: [\"0x1F\", \x7b7: \"on\"\x7d]\n" = .ok doc
      ∧ ofText doc.toText = .ok doc := by
  intro doc
  have hread : ofText "token: 1.50\nopt: [\"0x1F\", \x7b7: \"on\"\x7d]\n" = .ok doc :=
    eq_ok_of_toOption (by decide +kernel)
  have hfaithful : doc.faithful = true ∧ (Value.map doc.toMapping).keysFit = true := by
    decide +kernel
  exact ⟨hread, (ofText_toText hread).2 hfaithful⟩

end RoleDocument

end ClusterBoot
