/-
  ClusterBoot.Proofs.RoleDocuments
  ────────────────────────────────
  **WHAT A ROLE DOCUMENT HAS FROM EACH ENTRY OF ITS TEXT.**

  Named values are read one by one, and `Updates` says what they leave: each
  of the four keys that are understood has what its own value says, and all
  other values are inserted among the options (`foldlM_addEntry_iff`).  The
  documents that come from a text are `Sound`: what they pass on is
  well-formed, and no option has a key that is understood.
-/
import ClusterBoot.Proofs.NamedValues
import ClusterBoot.Proofs.Yaml.Documents
import ClusterBoot.RoleDocument

namespace ClusterBoot.RoleDocument

open Yaml (Value Entry)

/-! ## §1. Reading one entry. -/

/-- The entry of a named value. -/
def entryOf (e : Named) : Entry := (.str e.1, e.2)

/-- What a key that must be a scalar has, once its value is read. -/
def scalarAfter (key : String) (old : Option String) :
    Option Value → Except DocumentFault (Option String)
  | none => .ok old
  | some v => scalarSetting key v

/-- What a key that may be a list has, once its value is read. -/
def settingAfter (item? : Value → Option String) (old : Setting) : Option Value → Setting
  | none => old
  | some v => .ofValue item? v

/-- That a document is what an older one becomes when named values are read. -/
structure Updates (old new : RoleDocument) (ns : List Named) : Prop where
  token : scalarAfter tokenKey old.token (ns.lookup tokenKey) = .ok new.token
  server : scalarAfter serverKey old.server (ns.lookup serverKey) = .ok new.server
  cni : settingAfter Setting.text? old.cni (ns.lookup cniKey) = new.cni
  tlsSan : settingAfter Value.scalarText? old.tlsSan (ns.lookup tlsSanKey) = new.tlsSan
  options : insertAll old.options.entries (ns.filter fun e => !isReservedKey e.1)
    = new.options.entries

theorem eq_of_fields {a b : RoleDocument} (token : a.token = b.token) (cni : a.cni = b.cni)
    (server : a.server = b.server) (tlsSan : a.tlsSan = b.tlsSan)
    (options : a.options.entries = b.options.entries) : a = b := by
  obtain ⟨_, _, _, _, ⟨_, _⟩⟩ := a
  obtain ⟨_, _, _, _, ⟨_, _⟩⟩ := b
  cases token
  cases cni
  cases server
  cases tlsSan
  cases options
  rfl

/-- What named values make of a document is determined. -/
theorem Updates.unique {old new new' : RoleDocument} {ns : List Named} (h : Updates old new ns)
    (h' : Updates old new' ns) : new = new' :=
  eq_of_fields (Except.ok.inj (h.token.symm.trans h'.token)) (h.cni.symm.trans h'.cni)
    (Except.ok.inj (h.server.symm.trans h'.server)) (h.tlsSan.symm.trans h'.tlsSan)
    (h.options.symm.trans h'.options)

theorem updates_nil {old new : RoleDocument} : Updates old new [] ↔ old = new := by
  constructor
  · intro h
    exact eq_of_fields (Except.ok.inj h.token) h.cni (Except.ok.inj h.server) h.tlsSan h.options
  · intro heq
    subst heq
    exact ⟨rfl, rfl, rfl, rfl, rfl⟩

theorem eq_ok_of_toOption {ε α : Type} {x : Except ε α} {a : α} (h : x.toOption = some a) :
    x = .ok a := by
  cases x with
  | error e => cases h
  | ok b =>
      cases h
      rfl

theorem bind_eq_ok {α β ε : Type} {x : Except ε α} {f : α → Except ε β} {b : β} :
    x >>= f = .ok b ↔ ∃ a, x = .ok a ∧ f a = .ok b := by
  cases x with
  | error e =>
      constructor
      · intro h
        cases h
      · intro h
        obtain ⟨a, h, -⟩ := h
        cases h
  | ok a =>
      constructor
      · intro h
        exact ⟨a, rfl, h⟩
      · intro h
        obtain ⟨c, hc, h⟩ := h
        cases hc
        exact h

section Step

variable {old new : RoleDocument} {key : String} {value : Value}

theorem addEntry_token : addEntry old (.str tokenKey, value) = .ok new
    ↔ ∃ t, scalarSetting tokenKey value = .ok t ∧ { old with token := t } = new := by
  show (scalarSetting tokenKey value >>= fun t => .ok { old with token := t }) = .ok new ↔ _
  rw [bind_eq_ok]
  simp only [Except.ok.injEq]

theorem addEntry_server : addEntry old (.str serverKey, value) = .ok new
    ↔ ∃ t, scalarSetting serverKey value = .ok t ∧ { old with server := t } = new := by
  show (scalarSetting serverKey value >>= fun t => .ok { old with server := t }) = .ok new ↔ _
  rw [bind_eq_ok]
  simp only [Except.ok.injEq]

theorem addEntry_cni : addEntry old (.str cniKey, value) = .ok new
    ↔ { old with cni := .ofValue Setting.text? value } = new := by
  show Except.ok _ = _ ↔ _
  rw [Except.ok.injEq]

theorem addEntry_tlsSan : addEntry old (.str tlsSanKey, value) = .ok new
    ↔ { old with tlsSan := .ofValue Value.scalarText? value } = new := by
  show Except.ok _ = _ ↔ _
  rw [Except.ok.injEq]

theorem addEntry_option (h : isReservedKey key = false) : addEntry old (.str key, value) = .ok new
    ↔ { old with options := old.options.insert key value } = new := by
  simp only [isReservedKey, Bool.or_eq_false_iff, decide_eq_false_iff_not] at h
  obtain ⟨⟨⟨htoken, hcni⟩, hserver⟩, htlsSan⟩ := h
  rw [addEntry, if_neg htoken, if_neg hserver, if_neg hcni, if_neg htlsSan, Except.ok.injEq]

/-- The fields of the four keys look under their own names, where an option is not. -/
theorem lookup_reserved {name : String} (hkey : isReservedKey key = false)
    (hname : isReservedKey name = true) : List.lookup name [(key, value)] = none := by
  rw [lookup_first, if_neg]
  · rfl
  · intro heq
    subst heq
    rw [hkey] at hname
    cases hname

theorem updates_option (h : isReservedKey key = false) :
    Updates old { old with options := old.options.insert key value } [(key, value)] := by
  have hfilter : [(key, value)].filter (fun e => !isReservedKey e.1) = [(key, value)] :=
    List.filter_cons_of_pos (by simp [h])
  constructor
  · rw [lookup_reserved h (by decide)]
    rfl
  · rw [lookup_reserved h (by decide)]
    rfl
  · rw [lookup_reserved h (by decide)]
    rfl
  · rw [lookup_reserved h (by decide)]
    rfl
  · rw [hfilter]
    rfl

/-- What reading an entry makes of a document. -/
theorem updates_of_addEntry {e : Named} (h : addEntry old (entryOf e) = .ok new) :
    Updates old new [e] := by
  obtain ⟨key, value⟩ := e
  cases hreserved : isReservedKey key with
  | false =>
      rw [entryOf, addEntry_option hreserved] at h
      subst h
      exact updates_option hreserved
  | true =>
      simp only [isReservedKey, Bool.or_eq_true, decide_eq_true_eq] at hreserved
      -- token, cni, server and tls-san, as the reserved keys are listed
      rcases hreserved with ((rfl | rfl) | rfl) | rfl
      · obtain ⟨t, ht, rfl⟩ := addEntry_token.1 h
        exact ⟨ht, rfl, rfl, rfl, rfl⟩
      · obtain rfl := addEntry_cni.1 h
        exact ⟨rfl, rfl, rfl, rfl, rfl⟩
      · obtain ⟨t, ht, rfl⟩ := addEntry_server.1 h
        exact ⟨rfl, ht, rfl, rfl, rfl⟩
      · obtain rfl := addEntry_tlsSan.1 h
        exact ⟨rfl, rfl, rfl, rfl, rfl⟩

/-- Only the values of `token` and `server` can stop the reading. -/
theorem exists_addEntry (old : RoleDocument)
    (h : key = tokenKey ∨ key = serverKey → ∃ t, scalarSetting key value = .ok t) :
    ∃ new, addEntry old (.str key, value) = .ok new := by
  cases hreserved : isReservedKey key with
  | false => exact ⟨_, (addEntry_option hreserved).2 rfl⟩
  | true =>
      simp only [isReservedKey, Bool.or_eq_true, decide_eq_true_eq] at hreserved
      rcases hreserved with ((rfl | rfl) | rfl) | rfl
      · obtain ⟨t, ht⟩ := h (.inl rfl)
        exact ⟨_, addEntry_token.2 ⟨t, ht, rfl⟩⟩
      · exact ⟨_, addEntry_cni.2 rfl⟩
      · obtain ⟨t, ht⟩ := h (.inr rfl)
        exact ⟨_, addEntry_server.2 ⟨t, ht, rfl⟩⟩
      · exact ⟨_, addEntry_tlsSan.2 rfl⟩

/-- **One entry sets the field of its key and no other.** -/
theorem addEntry_iff {e : Named} : addEntry old (entryOf e) = .ok new ↔ Updates old new [e] := by
  constructor
  · exact updates_of_addEntry
  · intro h
    have hread : ∃ doc, addEntry old (entryOf e) = .ok doc := by
      apply exists_addEntry
      rintro (hkey | hkey)
      · have htoken := h.token
        rw [lookup_first, if_pos hkey.symm] at htoken
        exact ⟨_, hkey ▸ htoken⟩
      · have hserver := h.server
        rw [lookup_first, if_pos hkey.symm] at hserver
        exact ⟨_, hkey ▸ hserver⟩
    obtain ⟨doc, hdoc⟩ := hread
    rw [hdoc, (updates_of_addEntry hdoc).unique h]

end Step

/-! ## §2. Reading all entries. -/

section Run

variable {e : Named} {ns : List Named} {name : String}

/-- A name is looked up in the first entry, or in the others. -/
theorem lookup_split (hkey : e.1 ∉ ns.map Prod.fst) :
    (List.lookup name (e :: ns) = List.lookup name [e] ∧ ns.lookup name = none)
      ∨ (List.lookup name (e :: ns) = ns.lookup name ∧ List.lookup name [e] = none) := by
  rw [lookup_first, lookup_first]
  by_cases h : name = e.1
  · rw [if_pos h, if_pos h]
    exact .inl ⟨rfl, lookup_none (h ▸ hkey)⟩
  · rw [if_neg h, if_neg h]
    exact .inr ⟨rfl, rfl⟩

theorem scalarAfter_cons (hkey : e.1 ∉ ns.map Prod.fst) {old new : Option String} :
    scalarAfter name old (List.lookup name (e :: ns)) = .ok new
      ↔ ∃ mid, scalarAfter name old (List.lookup name [e]) = .ok mid
          ∧ scalarAfter name mid (ns.lookup name) = .ok new := by
  rcases lookup_split hkey with ⟨hall, hrest⟩ | ⟨hall, hfirst⟩
  · rw [hall, hrest]
    constructor
    · intro h
      exact ⟨new, h, rfl⟩
    · intro h
      obtain ⟨mid, hmid, h⟩ := h
      cases h
      exact hmid
  · rw [hall, hfirst]
    constructor
    · intro h
      exact ⟨old, rfl, h⟩
    · intro h
      obtain ⟨mid, hmid, h⟩ := h
      cases hmid
      exact h

theorem settingAfter_cons (hkey : e.1 ∉ ns.map Prod.fst) (item? : Value → Option String)
    (old : Setting) :
    settingAfter item? old (List.lookup name (e :: ns))
      = settingAfter item? (settingAfter item? old (List.lookup name [e])) (ns.lookup name) := by
  rcases lookup_split hkey with ⟨hall, hrest⟩ | ⟨hall, hfirst⟩
  · rw [hall, hrest]
    rfl
  · rw [hall, hfirst]
    rfl

theorem insertAll_filter_cons (k : Named → Bool) (old : List Named) :
    insertAll old ((e :: ns).filter k) = insertAll (insertAll old ([e].filter k)) (ns.filter k) := by
  have happend : (e :: ns).filter k = [e].filter k ++ ns.filter k :=
    List.filter_append (p := k) [e] ns
  rw [happend]
  exact List.foldl_append

/-- Reading one more entry, of a name that does not come again, is the first
step of reading all. -/
theorem updates_cons {old new : RoleDocument} (hkey : e.1 ∉ ns.map Prod.fst) :
    Updates old new (e :: ns) ↔ ∃ mid, Updates old mid [e] ∧ Updates mid new ns := by
  constructor
  · intro h
    obtain ⟨htoken, hserver, hcni, htls, hoptions⟩ := h
    obtain ⟨token, htoken, htoken'⟩ := (scalarAfter_cons hkey).1 htoken
    obtain ⟨server, hserver, hserver'⟩ := (scalarAfter_cons hkey).1 hserver
    rw [settingAfter_cons hkey] at hcni htls
    rw [insertAll_filter_cons] at hoptions
    -- the options between the two readings are ascending, so they are options
    obtain ⟨options, hstep⟩ : ∃ o : Options, insertAll old.options.entries
        ([e].filter fun e => !isReservedKey e.1) = o.entries :=
      ⟨⟨_, ascending_insertAll _ old.options.ascending⟩, rfl⟩
    rw [hstep] at hoptions
    exact ⟨⟨token, settingAfter Setting.text? old.cni (List.lookup cniKey [e]), server,
        settingAfter Value.scalarText? old.tlsSan (List.lookup tlsSanKey [e]), options⟩,
      ⟨htoken, hserver, rfl, rfl, hstep⟩, ⟨htoken', hserver', hcni, htls, hoptions⟩⟩
  · intro h
    obtain ⟨mid, ⟨htoken, hserver, hcni, htls, hoptions⟩, h⟩ := h
    constructor
    · exact (scalarAfter_cons hkey).2 ⟨mid.token, htoken, h.token⟩
    · exact (scalarAfter_cons hkey).2 ⟨mid.server, hserver, h.server⟩
    · rw [settingAfter_cons hkey, hcni, h.cni]
    · rw [settingAfter_cons hkey, htls, h.tlsSan]
    · rw [insertAll_filter_cons, hoptions, h.options]

end Run

/-- **Reading named values leaves in each field what its own key says.** -/
theorem foldlM_addEntry_iff {new : RoleDocument} (ns : List Named) :
    ∀ old, (ns.map Prod.fst).Nodup →
      ((ns.map entryOf).foldlM addEntry old = .ok new ↔ Updates old new ns) := by
  induction ns with
  | nil =>
      intro old _
      rw [updates_nil]
      exact ⟨Except.ok.inj, congrArg _⟩
  | cons e ns ih =>
      intro old hkeys
      obtain ⟨hkey, hkeys⟩ := List.nodup_cons.1 hkeys
      rw [List.map_cons, List.foldlM_cons, bind_eq_ok, updates_cons hkey]
      refine exists_congr fun mid => ?_
      rw [addEntry_iff, ih mid hkeys]

/-- A mapping that is read has only texts as keys. -/
theorem keys_of_foldlM {new : RoleDocument} (es : List Entry) :
    ∀ old, es.foldlM addEntry old = .ok new → ∀ e ∈ es, ∃ s, e.1 = .str s := by
  induction es with
  | nil =>
      intro old _ e he
      cases he
  | cons e es ih =>
      intro old h
      rw [List.foldlM_cons, bind_eq_ok] at h
      obtain ⟨mid, hmid, h⟩ := h
      refine List.forall_mem_cons.2 ⟨?_, ih mid h⟩
      obtain ⟨key, value⟩ := e
      -- a key that is no text is a fault at once
      cases key <;> first | exact ⟨_, rfl⟩ | cases hmid

/-! ## §3. The documents of texts. -/

/-- What holds of the documents that texts stand for. -/
structure Sound (doc : RoleDocument) : Prop where
  cni : ∃ v : Value, v.WellFormed ∧ Setting.ofValue Setting.text? v = doc.cni
  tlsSan : ∃ v : Value, v.WellFormed ∧ Setting.ofValue Value.scalarText? v = doc.tlsSan
  keys : ∀ e ∈ doc.options.entries, isReservedKey e.1 = false
  values : ∀ e ∈ doc.options.entries, e.2.WellFormed

theorem sound_empty : empty.Sound := by
  constructor
  · exact ⟨.null, .null, rfl⟩
  · exact ⟨.null, .null, rfl⟩
  · intro e he
    cases he
  · intro e he
    cases he

theorem Sound.addEntry {doc new : RoleDocument} {e : Entry} (h : doc.Sound)
    (he : e.2.WellFormed) (hadd : RoleDocument.addEntry doc e = .ok new) : new.Sound := by
  obtain ⟨key, value⟩ := e
  cases key with
  | str key =>
      cases hreserved : isReservedKey key with
      | false =>
          rw [addEntry_option hreserved] at hadd
          subst hadd
          refine ⟨h.cni, h.tlsSan, ?_, ?_⟩
          · intro d hd
            -- what is among the options now is the new entry or was there before
            rcases mem_insertAscending hd with rfl | hd
            · exact hreserved
            · exact h.keys d hd
          · intro d hd
            rcases mem_insertAscending hd with rfl | hd
            · exact he
            · exact h.values d hd
      | true =>
          simp only [isReservedKey, Bool.or_eq_true, decide_eq_true_eq] at hreserved
          rcases hreserved with ((rfl | rfl) | rfl) | rfl
          · obtain ⟨t, -, rfl⟩ := addEntry_token.1 hadd
            exact ⟨h.cni, h.tlsSan, h.keys, h.values⟩
          · cases addEntry_cni.1 hadd
            exact ⟨⟨value, he, rfl⟩, h.tlsSan, h.keys, h.values⟩
          · obtain ⟨t, -, rfl⟩ := addEntry_server.1 hadd
            exact ⟨h.cni, h.tlsSan, h.keys, h.values⟩
          · cases addEntry_tlsSan.1 hadd
            exact ⟨h.cni, ⟨value, he, rfl⟩, h.keys, h.values⟩
  | _ => cases hadd

theorem Sound.foldlM {new : RoleDocument} (es : List Entry) :
    ∀ {doc : RoleDocument}, doc.Sound → (∀ e ∈ es, e.2.WellFormed) →
      es.foldlM RoleDocument.addEntry doc = .ok new → new.Sound := by
  induction es with
  | nil =>
      intro doc h _ hnew
      cases hnew
      exact h
  | cons e es ih =>
      intro doc h hes hnew
      rw [List.foldlM_cons, bind_eq_ok] at hnew
      obtain ⟨mid, hmid, hnew⟩ := hnew
      obtain ⟨he, hes⟩ := List.forall_mem_cons.1 hes
      exact ih (h.addEntry he hmid) hes hnew

theorem sound_of_ofText {text : String} {doc : RoleDocument} (h : ofText text = .ok doc) :
    doc.Sound := by
  unfold ofText at h
  split at h
  · rename_i docs hdocs
    have hwell := Yaml.wellFormed_of_documents? hdocs
    unfold ofDocuments at h
    split at h
    · cases h
      exact sound_empty
    · cases h
      exact sound_empty
    -- only the first document counts
    · rename_i entries rest
      cases hwell (.map entries) List.mem_cons_self with
      | map _ _ values => exact sound_empty.foldlM entries values h
    · cases h
  · cases h

/-! ## §4. The named values of a document. -/

section Optional

variable {key name : String} {value : Option Value} {es : List Named}

theorem mem_withOptional {e : Named} (h : e ∈ withOptional key value es) :
    (e.1 = key ∧ value = some e.2) ∨ e ∈ es := by
  cases value with
  | none => exact .inr h
  | some v =>
      rcases mem_insertAscending h with rfl | h
      · exact .inl ⟨rfl, rfl⟩
      · exact .inr h

theorem ascending_withOptional (h : Ascending es) : Ascending (withOptional key value es) := by
  cases value with
  | none => exact h
  | some v => exact h.insertAscending

theorem lookup_withOptional (key name : String) (value : Option Value) (es : List Named) :
    (withOptional key value es).lookup name
      = if name = key then value.or (es.lookup name) else es.lookup name := by
  cases value with
  | none => split <;> rfl
  | some v => exact lookup_insertAscending key name v es

/-- An entry that is filtered out is not seen. -/
theorem filter_withOptional_of_dropped {k : String → Bool} (h : k key = false) :
    (withOptional key value es).filter (fun e => k e.1) = es.filter fun e => k e.1 := by
  cases value with
  | none => rfl
  | some v => exact filter_insertAscending h v es

/-- An entry that is not filtered out may as well be added after the filter. -/
theorem filter_withOptional_of_kept {k : String → Bool} (h : k key = true) (hes : Ascending es) :
    (withOptional key value es).filter (fun e => k e.1)
      = withOptional key value (es.filter fun e => k e.1) := by
  cases value with
  | none => rfl
  | some v => exact filter_insertAscending_of_kept h v hes

theorem filter_withOptional (h : isReservedKey key = true) :
    (withOptional key value es).filter (fun e => !isReservedKey e.1)
      = es.filter fun e => !isReservedKey e.1 := by
  have hdrop : (!isReservedKey key) = false := by rw [h]; rfl
  exact filter_withOptional_of_dropped (k := fun name => !isReservedKey name) hdrop

end Optional

variable {doc : RoleDocument}

theorem ascending_namedValues (doc : RoleDocument) : Ascending doc.namedValues :=
  ascending_withOptional (ascending_withOptional (ascending_withOptional
    (ascending_withOptional doc.options.ascending)))

theorem mem_namedValues {e : Named} (h : e ∈ doc.namedValues) :
    (e.1 = tlsSanKey ∧ doc.tlsSan.toValue? = some e.2)
      ∨ (e.1 = cniKey ∧ doc.cni.toValue? = some e.2)
      ∨ (e.1 = serverKey ∧ doc.server.map .str = some e.2)
      ∨ (e.1 = tokenKey ∧ doc.token.map .str = some e.2) ∨ e ∈ doc.options.entries := by
  rcases mem_withOptional h with h | h
  · exact .inl h
  rcases mem_withOptional h with h | h
  · exact .inr (.inl h)
  rcases mem_withOptional h with h | h
  · exact .inr (.inr (.inl h))
  rcases mem_withOptional h with h | h
  · exact .inr (.inr (.inr (.inl h)))
  · exact .inr (.inr (.inr (.inr h)))

/-- That no option has a key that is understood. -/
def Separate (doc : RoleDocument) : Prop :=
  ∀ e ∈ doc.options.entries, isReservedKey e.1 = false

theorem Sound.separate (h : doc.Sound) : doc.Separate :=
  h.keys

theorem Separate.lookup_options (h : doc.Separate) {name : String}
    (hname : isReservedKey name = true) : doc.options.entries.lookup name = none := by
  refine lookup_none fun hmem => ?_
  obtain ⟨e, he, rfl⟩ := List.mem_map.1 hmem
  rw [h e he] at hname
  cases hname

theorem Separate.lookup_token (h : doc.Separate) :
    doc.namedValues.lookup tokenKey = doc.token.map .str := by
  unfold namedValues
  rw [lookup_withOptional, if_neg (by decide), lookup_withOptional, if_neg (by decide),
    lookup_withOptional, if_neg (by decide), lookup_withOptional, if_pos rfl,
    h.lookup_options (by decide), Option.or_none]

theorem Separate.lookup_server (h : doc.Separate) :
    doc.namedValues.lookup serverKey = doc.server.map .str := by
  unfold namedValues
  rw [lookup_withOptional, if_neg (by decide), lookup_withOptional, if_neg (by decide),
    lookup_withOptional, if_pos rfl, lookup_withOptional, if_neg (by decide),
    h.lookup_options (by decide), Option.or_none]

theorem Separate.lookup_cni (h : doc.Separate) :
    doc.namedValues.lookup cniKey = doc.cni.toValue? := by
  unfold namedValues
  rw [lookup_withOptional, if_neg (by decide), lookup_withOptional, if_pos rfl,
    lookup_withOptional, if_neg (by decide), lookup_withOptional, if_neg (by decide),
    h.lookup_options (by decide), Option.or_none]

theorem Separate.lookup_tlsSan (h : doc.Separate) :
    doc.namedValues.lookup tlsSanKey = doc.tlsSan.toValue? := by
  unfold namedValues
  rw [lookup_withOptional, if_pos rfl, lookup_withOptional, if_neg (by decide),
    lookup_withOptional, if_neg (by decide), lookup_withOptional, if_neg (by decide),
    h.lookup_options (by decide), Option.or_none]

theorem Separate.filter_namedValues (h : doc.Separate) :
    doc.namedValues.filter (fun e => !isReservedKey e.1) = doc.options.entries := by
  unfold namedValues
  rw [filter_withOptional (by decide), filter_withOptional (by decide),
    filter_withOptional (by decide), filter_withOptional (by decide), List.filter_eq_self]
  intro e he
  rw [h e he]
  rfl

end ClusterBoot.RoleDocument
