/-
  ClusterBoot.Proofs.WrittenForms
  ────────────────────────────────
  **A SETTING MEANS THE SAME AS A LIST AND AS ONE TEXT.**

  Plugins and names may be listed one by one or written in one text, with commas
  between them.  Plugins are cut at every comma, so the text has as many entries as
  the list (`plugins_joined`).  Of names the blank segments are left out, so a text may
  hold any number of them (`Spells`, `addresses_spelled`); and every text is spelled by
  the addresses that are taken from it (`spells_addressesOf`).
-/
import ClusterBoot.Proofs.PluginSelections
import ClusterBoot.Proofs.Trimming
import ClusterBoot.TlsSan
import Mathlib.Data.List.Forall2

namespace ClusterBoot

open Text (Blank Trimmed Padded)

/-- The text that segments make, with commas between them. -/
def commaJoined (segments : List String) : String :=
  ",".intercalate segments

theorem pieces_commaJoined {segments : List String} (hne : segments ≠ [])
    (h : ∀ s ∈ segments, ',' ∉ s.toList) : Text.pieces ',' (commaJoined segments) = segments :=
  Text.pieces_intercalate hne h

theorem Text.Padded.notMem_comma {s padded : String} (h : Padded s padded)
    (hs : ',' ∉ s.toList) : ',' ∉ padded.toList :=
  fun hmem => hs ((h.mem_iff (by decide)).1 hmem)

/-! ## §1. Plugins. -/

theorem entries_padded {xs ys : List String} (h : List.Forall₂ Padded xs ys) :
    ys.map Text.trim = xs.map Text.trim := by
  induction h with
  | nil => rfl
  | cons hpadded _ ih => rw [List.map_cons, List.map_cons, Text.trim_padded hpadded, ih]

theorem notMem_comma_padded {xs ys : List String} (h : List.Forall₂ Padded xs ys)
    (hxs : ∀ x ∈ xs, ',' ∉ x.toList) : ∀ y ∈ ys, ',' ∉ y.toList := by
  induction h with
  | nil => simp
  | cons hpadded _ ih =>
      obtain ⟨hx, hxs⟩ := List.forall_mem_cons.1 hxs
      exact List.forall_mem_cons.2 ⟨hpadded.notMem_comma hx, ih hxs⟩

/-- **Plugins in one text are those of the list of its segments.** -/
theorem plugins_joined {segments : List String} (hne : segments ≠ [])
    (h : ∀ s ∈ segments, ',' ∉ s.toList) :
    (Setting.single (commaJoined segments)).plugins = (Setting.list segments).plugins := by
  have hentries : (Setting.single (commaJoined segments)).entries?
      = (Setting.list segments).entries? := by
    rw [Setting.entries?, Setting.entries?, pieces_commaJoined hne h]
  rw [Setting.plugins, Setting.plugins, hentries]

/-- **The padding of plugins does not matter.** -/
theorem plugins_padded {xs ys : List String} (h : List.Forall₂ Padded xs ys) :
    (Setting.list ys).plugins = (Setting.list xs).plugins := by
  have hentries : (Setting.list ys).entries? = (Setting.list xs).entries? := by
    rw [Setting.entries?, Setting.entries?, entries_padded h]
  rw [Setting.plugins, Setting.plugins, hentries]

/-- The primary plugin is one of the entries. -/
theorem Plugins.primary_mem {entries : List String} {plugins : Plugins}
    (h : Plugins.ofEntries entries = .ok plugins) : plugins.primary ∈ entries := by
  unfold Plugins.ofEntries at h
  split at h
  next => cases h
  next =>
    split at h
    next => cases h
    next =>
      cases h
      simp
  next =>
    split at h
    next =>
      cases h
      simp
    next => cases h
  next => cases h

theorem Setting.ListsEntries.trimmed {setting : Setting} {entries : List String}
    (h : setting.ListsEntries entries) : ∀ x ∈ entries, Trimmed x := by
  have hmap : ∀ segments : List String, ∀ x ∈ segments.map Text.trim, Trimmed x := by
    intro segments x hx
    obtain ⟨s, -, rfl⟩ := List.mem_map.1 hx
    exact Text.trimmed_trim s
  cases h with
  | single => exact hmap _
  | list items => exact hmap items

theorem Setting.trimmed_primary {setting : Setting} {plugins : Plugins}
    (h : setting.plugins = .ok plugins) : Trimmed plugins.primary := by
  rcases setting.plugins_cases with ⟨entries, same, hentries, hfirst, hsame⟩ | ⟨fault, hfault⟩
  · obtain rfl := Except.ok.inj (h.symm.trans hsame)
    exact hentries.trimmed _ (Plugins.primary_mem hfirst)
  · rw [hfault] at h
    cases h

/-! ## §2. Names. -/

/-- An address as it stands in a list of names. -/
structure IsListed (x : String) : Prop where
  nonempty : x ≠ ""
  trimmed : Trimmed x
  single : ',' ∉ x.toList

/-- That segments spell addresses: the addresses in their order, with any padding,
and any number of blank segments before, between and after them. -/
inductive Spells : List String → List String → Prop
  | nil : Spells [] []
  | blank {xs segments : List String} {s : String} (hs : Blank s) (h : Spells xs segments) :
      Spells xs (s :: segments)
  | address {xs segments : List String} {x s : String} (hs : Padded x s) (h : Spells xs segments) :
      Spells (x :: xs) (s :: segments)

/-- The addresses are what is left of the segments. -/
theorem Spells.addresses_eq {xs segments : List String} (h : Spells xs segments)
    (hxs : ∀ x ∈ xs, IsListed x) : (segments.map Text.trim).filter (· ≠ "") = xs := by
  induction h with
  | nil => rfl
  | blank hs _ ih =>
      rw [List.map_cons, Text.trim_eq_empty_iff.2 hs]
      simpa using ih hxs
  | @address xs segments x s hs _ ih =>
      obtain ⟨hx, hxs⟩ := List.forall_mem_cons.1 hxs
      rw [List.map_cons, Text.trim_padded hs, Text.trim_of_trimmed hx.trimmed,
        List.filter_cons_of_pos (by simpa using hx.nonempty), ih hxs]

theorem Text.Blank.notMem_comma {s : String} (h : Blank s) : ',' ∉ s.toList :=
  fun hmem => absurd (h ',' hmem) (by decide)

theorem Spells.notMem_comma {xs segments : List String} (h : Spells xs segments)
    (hxs : ∀ x ∈ xs, IsListed x) : ∀ s ∈ segments, ',' ∉ s.toList := by
  induction h with
  | nil => simp
  | blank hs _ ih => exact List.forall_mem_cons.2 ⟨hs.notMem_comma, ih hxs⟩
  | address hs _ ih =>
      obtain ⟨hx, hxs⟩ := List.forall_mem_cons.1 hxs
      exact List.forall_mem_cons.2 ⟨hs.notMem_comma hx.single, ih hxs⟩

/-- **The addresses of a text are those that its segments spell.** -/
theorem addresses_spelled {xs segments : List String} (h : Spells xs segments)
    (hxs : ∀ x ∈ xs, IsListed x) : addressesOf (commaJoined segments) = xs := by
  by_cases hne : segments = []
  · subst hne
    cases h
    decide
  · rw [addressesOf, pieces_commaJoined hne (h.notMem_comma hxs), h.addresses_eq hxs]

/-- Segments spell what is left of them. -/
theorem spells_trimmed (segments : List String) :
    Spells ((segments.map Text.trim).filter (· ≠ "")) segments := by
  induction segments with
  | nil => exact .nil
  | cons s segments ih =>
      rw [List.map_cons]
      by_cases hblank : Text.trim s = ""
      · rw [List.filter_cons_of_neg (by simpa using hblank)]
        exact .blank (Text.trim_eq_empty_iff.1 hblank) ih
      · rw [List.filter_cons_of_pos (by simpa using hblank)]
        exact .address (Text.padded_trim s) ih

theorem spells_addressesOf (text : String) :
    Spells (addressesOf text) (Text.pieces ',' text) :=
  spells_trimmed _

theorem isListed_of_mem_addressesOf {text x : String} (h : x ∈ addressesOf text) : IsListed x := by
  obtain ⟨hmem, hne⟩ := List.mem_filter.1 h
  obtain ⟨s, hs, rfl⟩ := List.mem_map.1 hmem
  refine ⟨by simpa using hne, Text.trimmed_trim s, fun hcomma => ?_⟩
  exact Text.notMem_of_mem_pieces hs (((Text.padded_trim s).mem_iff (by decide)).2 hcomma)

/-! ## §3. Both settings of a document. -/

/-- That the two forms of the settings of a document agree. -/
structure FormsAgree (doc : RoleDocument) : Prop where
  /-- Plugins are the same in a list and in one text, and with any padding. -/
  plugins : ∀ xs ys, xs ≠ [] → (∀ x ∈ xs, ',' ∉ x.toList) → List.Forall₂ Padded xs ys →
    (Setting.list ys).plugins = (Setting.list xs).plugins
      ∧ (Setting.single (commaJoined ys)).plugins = (Setting.list xs).plugins
  /-- The primary plugin has no white space around it. -/
  primary : ∀ plugins, doc.cni.plugins = .ok plugins → Trimmed plugins.primary
  /-- Names that a text spells become the same list, -/
  normalized : ∀ xs segments, (∀ x ∈ xs, IsListed x) → Spells xs segments →
    { doc with tlsSan := .single (commaJoined segments) }.normalizeTlsSan
      = { doc with tlsSan := .list xs }.normalizeTlsSan
  /-- also if an address is added. -/
  merged : ∀ xs segments, (∀ x ∈ xs, IsListed x) → Spells xs segments →
    ∀ policy address, address ≠ "" →
      { doc with tlsSan := .single (commaJoined segments) }.mergeTlsSan policy address
        = { doc with tlsSan := .list xs }.mergeTlsSan policy address
  /-- From every text addresses are taken that it spells. -/
  taken : ∀ text, ∃ xs, { doc with tlsSan := .single text }.normalizeTlsSan
      = ({ doc with tlsSan := .list xs }, none)
    ∧ (∀ x ∈ xs, IsListed x) ∧ ∃ segments, commaJoined segments = text ∧ Spells xs segments

/-- **Settings mean the same as a list and as one text.** -/
theorem forms_agree (doc : RoleDocument) : FormsAgree doc where
  plugins xs ys hne hxs hpadded := by
    have hys : ys ≠ [] := by
      rintro rfl
      exact hne (List.forall₂_nil_right_iff.1 hpadded)
    have hjoined := plugins_joined hys (notMem_comma_padded hpadded hxs)
    exact ⟨plugins_padded hpadded, hjoined.trans (plugins_padded hpadded)⟩
  primary plugins h := Setting.trimmed_primary h
  normalized xs segments hxs h := by
    simp only [RoleDocument.normalizeTlsSan, Setting.addresses, addresses_spelled h hxs,
      Setting.discarded?, reduceCtorEq, if_false]
  merged xs segments hxs h policy address haddress := by
    simp only [RoleDocument.mergeTlsSan, Setting.addresses, addresses_spelled h hxs,
      Setting.discarded?, if_neg haddress]
  taken text := by
    refine ⟨addressesOf text, ?_, fun x => isListed_of_mem_addressesOf, Text.pieces ',' text,
      Text.intercalate_pieces ',' text, spells_addressesOf text⟩
    simp only [RoleDocument.normalizeTlsSan, Setting.addresses, Setting.discarded?, reduceCtorEq,
      if_false]

/-- A tab beside a plugin, and blank segments and a no-break space beside names. -/
theorem forms_agree_blanks :
    let spelled := commaJoined ["", "a.example ", " ", "\u00a0b.example"]
    let listed := ["a.example", "b.example"]
    (Setting.single (commaJoined ["multus ", "\tcanal"])).plugins
        = (Setting.list ["multus", "canal"]).plugins
      ∧ { RoleDocument.empty with tlsSan := .single spelled }.normalizeTlsSan
        = { RoleDocument.empty with tlsSan := .list listed }.normalizeTlsSan := by
  have hagree := forms_agree .empty
  have hmultus : Padded "multus" "multus " := ⟨"", " ", by decide, by decide, rfl⟩
  have hcanal : Padded "canal" "\tcanal" := ⟨"\t", "", by decide, by decide, rfl⟩
  have ha : Padded "a.example" "a.example " := ⟨"", " ", by decide, by decide, rfl⟩
  have hb : Padded "b.example" "\u00a0b.example" := ⟨"\u00a0", "", by decide, by decide, rfl⟩
  have hlisted : ∀ x ∈ ["a.example", "b.example"], IsListed x := by
    refine List.forall_mem_cons.2 ⟨?_, List.forall_mem_singleton.2 ?_⟩
    all_goals exact ⟨by decide, by decide, by decide⟩
  have hspells : Spells ["a.example", "b.example"] ["", "a.example ", " ", "\u00a0b.example"] :=
    .blank (by decide) (.address ha (.blank (by decide) (.address hb .nil)))
  have hplugins := hagree.plugins ["multus", "canal"] _ (by decide) (by decide)
    (.cons hmultus (.cons hcanal .nil))
  exact ⟨hplugins.2, hagree.normalized _ _ hlisted hspells⟩

end ClusterBoot
