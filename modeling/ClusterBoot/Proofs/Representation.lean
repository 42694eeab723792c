/-
  ClusterBoot.Proofs.Representation
  ────────────────────────────────
  **WHATEVER IS DONE TO A DOCUMENT, IT IS WRITTEN AS ITSELF.**

  A document may be read from a text and then edited: options are inserted,
  addresses are added to its names, fields are assigned.  No edit puts a key
  that is understood among the options, and the two settings stay what some
  value stands for (`Represented`, kept by every `Edit`).  That is enough for
  the mapping that a document is written as to hold every field once and to be
  read as the same document (`Represented.written`).
-/
import ClusterBoot.Proofs.RoundTrip
import ClusterBoot.TlsSan

namespace ClusterBoot

open Yaml (Value Entry)

theorem Setting.exists_toValue? {setting : Setting} :
    (∃ v, setting.toValue? = some v) ↔ setting ≠ .absent := by
  cases setting <;> simp [toValue?]

/-! ## §1. Edits. -/

namespace RoleDocument

/-- A change to a document.  The two settings are assigned what a value stands
for under their key. -/
inductive Edit where
  /-- An option is inserted; a key that is understood is refused. -/
  | insert (key : String) (value : Value)
  /-- An address is added to the names. -/
  | append (address : String)
  /-- An address is added to the names under a policy on duplicates. -/
  | merge (policy : TlsSanPolicy) (address : String)
  /-- The names become a list. -/
  | normalize
  | setToken (token : Option String)
  | setServer (server : Option String)
  | setCni (value : Value)
  | setTlsSan (value : Value)

/-- The document after a change. -/
def Edit.apply : Edit → RoleDocument → RoleDocument
  | insert key value, doc => (doc.insert? key value).getD doc
  | append address, doc => (doc.appendTlsSan address).1
  | merge policy address, doc => (doc.mergeTlsSan policy address).1
  | normalize, doc => doc.normalizeTlsSan.1
  | setToken token, doc => { doc with token := token }
  | setServer server, doc => { doc with server := server }
  | setCni value, doc => { doc with cni := .ofValue Setting.text? value }
  | setTlsSan value, doc => { doc with tlsSan := .ofValue Value.scalarText? value }

/-- The document after several changes, one after the other. -/
def edited (edits : List Edit) (doc : RoleDocument) : RoleDocument :=
  edits.foldl (fun doc edit => edit.apply doc) doc

/-! ## §2. What every edit keeps. -/

/-- The representation of a document: its options have keys of their own, and
its settings are what some value stands for. -/
structure Represented (doc : RoleDocument) : Prop where
  separate : doc.Separate
  cni : ∃ v : Value, Setting.ofValue Setting.text? v = doc.cni
  tlsSan : ∃ v : Value, Setting.ofValue Value.scalarText? v = doc.tlsSan

theorem Sound.represented {doc : RoleDocument} (h : doc.Sound) : doc.Represented := by
  obtain ⟨cni, -, hcni⟩ := h.cni
  obtain ⟨names, -, hnames⟩ := h.tlsSan
  exact ⟨h.separate, ⟨cni, hcni⟩, ⟨names, hnames⟩⟩

/-- Names that are a list are what the list of their texts stands for. -/
theorem ofValue_texts (names : List String) :
    Setting.ofValue Value.scalarText? (.list (names.map .str)) = .list names :=
  Setting.ofValue_eq_list.2 ((Setting.itemTexts?_map names).2 fun _ _ => rfl)

section Step

variable {doc : RoleDocument}

theorem insert?_eq_none {key : String} {value : Value} :
    doc.insert? key value = none ↔ isReservedKey key = true := by
  rw [insert?]
  cases isReservedKey key <;> simp

theorem Represented.insert? (h : doc.Represented) {key : String} {value : Value}
    {new : RoleDocument} (hnew : doc.insert? key value = some new) : new.Represented := by
  unfold RoleDocument.insert? at hnew
  split at hnew
  next => cases hnew
  next hkey =>
    cases hnew
    refine ⟨fun e he => ?_, h.cni, h.tlsSan⟩
    -- what is among the options now is the new entry or was there before
    rcases mem_insertAscending he with rfl | he
    · exact Bool.not_eq_true _ ▸ hkey
    · exact h.separate e he

theorem Represented.mergeTlsSan (h : doc.Represented) (policy : TlsSanPolicy) (address : String) :
    (doc.mergeTlsSan policy address).1.Represented := by
  unfold RoleDocument.mergeTlsSan
  split
  · exact h
  · exact ⟨h.separate, h.cni, ⟨_, ofValue_texts _⟩⟩

theorem Represented.normalizeTlsSan (h : doc.Represented) :
    doc.normalizeTlsSan.1.Represented := by
  unfold RoleDocument.normalizeTlsSan
  split
  · exact h
  · exact ⟨h.separate, h.cni, ⟨_, ofValue_texts _⟩⟩

/-- **Every edit keeps the representation.** -/
theorem Represented.apply (h : doc.Represented) (edit : Edit) : (edit.apply doc).Represented := by
  cases edit with
  | insert key value =>
      show ((doc.insert? key value).getD doc).Represented
      cases hnew : doc.insert? key value with
      | none => exact h
      | some new => exact h.insert? hnew
  | append address => exact h.mergeTlsSan .append address
  | merge policy address => exact h.mergeTlsSan policy address
  | normalize => exact h.normalizeTlsSan
  | setToken token => exact ⟨h.separate, h.cni, h.tlsSan⟩
  | setServer server => exact ⟨h.separate, h.cni, h.tlsSan⟩
  | setCni value => exact ⟨h.separate, ⟨value, rfl⟩, h.tlsSan⟩
  | setTlsSan value => exact ⟨h.separate, h.cni, ⟨value, rfl⟩⟩

theorem Represented.edited (h : doc.Represented) (edits : List Edit) :
    (doc.edited edits).Represented := by
  induction edits generalizing doc with
  | nil => exact h
  | cons edit edits ih => exact ih (h.apply edit)

end Step

/-! ## §3. How a document is written. -/

/-- The keys that are understood. -/
def reservedKeys : List String := [tokenKey, cniKey, serverKey, tlsSanKey]

/-- How a document is written, and that this is the document. -/
structure Written (doc : RoleDocument) : Prop where
  /-- The four keys that are understood are no options. -/
  options : ∀ key ∈ reservedKeys, doc.get? key = none
  /-- The keys are texts that strictly ascend. -/
  ascending : ∃ keys : List String,
    doc.toMapping.map Prod.fst = keys.map .str ∧ keys.Pairwise (· < ·)
  /-- There is a token exactly if it is set. -/
  token : ∀ v, (Value.str tokenKey, v) ∈ doc.toMapping ↔ ∃ t, doc.token = some t ∧ v = .str t
  /-- So with the address to join at, -/
  server : ∀ v, (Value.str serverKey, v) ∈ doc.toMapping ↔ ∃ t, doc.server = some t ∧ v = .str t
  /-- with the plugins, -/
  cni : ∀ v, (Value.str cniKey, v) ∈ doc.toMapping ↔ doc.cni.toValue? = some v
  cniSet : (∃ v, (Value.str cniKey, v) ∈ doc.toMapping) ↔ doc.cni ≠ .absent
  /-- and with the names. -/
  tlsSan : ∀ v, (Value.str tlsSanKey, v) ∈ doc.toMapping ↔ doc.tlsSan.toValue? = some v
  tlsSanSet : (∃ v, (Value.str tlsSanKey, v) ∈ doc.toMapping) ↔ doc.tlsSan ≠ .absent
  /-- Every other entry is an option, and every option is there as it is. -/
  others : ∀ key ∉ reservedKeys, ∀ v,
    (Value.str key, v) ∈ doc.toMapping ↔ (key, v) ∈ doc.options.entries
  /-- Reading what is written gives the same document. -/
  again : ofDocuments [.map doc.toMapping] = .ok doc

theorem isReservedKey_iff {key : String} :
    isReservedKey key = true ↔ key ∈ reservedKeys := by
  simp only [isReservedKey, reservedKeys, Bool.or_eq_true, decide_eq_true_eq, List.mem_cons,
    List.not_mem_nil, or_false, or_assoc]

variable {doc : RoleDocument}

theorem mem_toMapping {key : String} {v : Value} :
    (Value.str key, v) ∈ doc.toMapping ↔ doc.namedValues.lookup key = some v := by
  rw [← (ascending_namedValues doc).mem_iff, toMapping, List.mem_map]
  constructor
  · intro h
    obtain ⟨e, he, heq⟩ := h
    obtain ⟨hkey, rfl⟩ := Prod.mk.inj heq
    exact Value.str.inj hkey ▸ he
  · intro h
    exact ⟨_, h, rfl⟩

/-- A key that is not understood is looked up among the options. -/
theorem lookup_namedValues_option {key : String} (hkey : isReservedKey key = false) :
    doc.namedValues.lookup key = doc.options.entries.lookup key := by
  have hne : ∀ name, isReservedKey name = true → key ≠ name := by
    rintro name hname rfl
    exact absurd hname (by simp [hkey])
  unfold namedValues
  rw [lookup_withOptional, if_neg (hne _ (by decide)), lookup_withOptional,
    if_neg (hne _ (by decide)), lookup_withOptional, if_neg (hne _ (by decide)),
    lookup_withOptional, if_neg (hne _ (by decide))]

theorem keys_ascending (doc : RoleDocument) : ∃ keys : List String,
    doc.toMapping.map Prod.fst = keys.map Value.str ∧ keys.Pairwise (· < ·) := by
  refine ⟨doc.namedValues.map Prod.fst, ?_, ?_⟩
  · rw [toMapping, List.map_map, List.map_map]
    rfl
  · exact List.pairwise_map.2 (ascending_namedValues doc)

/-- A setting that some value stands for is found again under the value that it
is written as. -/
theorem settingAfter_toValue? {item? : Value → Option String} {setting : Setting}
    (hitem : ∀ s, item? (.str s) = some s) (h : ∃ v : Value, Setting.ofValue item? v = setting) :
    settingAfter item? .absent setting.toValue? = setting := by
  cases setting with
  | absent => rfl
  | single s => rfl
  | list items =>
      exact Setting.ofValue_eq_list.2 ((Setting.itemTexts?_map items).2 fun s _ => hitem s)
  | other v =>
      obtain ⟨w, hw⟩ := h
      obtain rfl := Setting.eq_of_ofValue_other hw
      exact hw

theorem scalarAfter_text (key : String) (o : Option String) :
    scalarAfter key none (o.map .str) = .ok o := by
  cases o <;> rfl

/-- The named values of a document make it. -/
theorem Represented.updates (h : doc.Represented) : Updates empty doc doc.namedValues where
  token := by
    rw [h.separate.lookup_token]
    exact scalarAfter_text tokenKey doc.token
  server := by
    rw [h.separate.lookup_server]
    exact scalarAfter_text serverKey doc.server
  cni := by
    rw [h.separate.lookup_cni]
    exact settingAfter_toValue? (fun _ => rfl) h.cni
  tlsSan := by
    rw [h.separate.lookup_tlsSan]
    exact settingAfter_toValue? (fun _ => rfl) h.tlsSan
  options := by
    rw [h.separate.filter_namedValues]
    exact insertAll_ascending doc.options.ascending

/-- **A document with this representation is written as itself.** -/
theorem Represented.written (h : doc.Represented) : doc.Written where
  options key hkey := h.separate.lookup_options (isReservedKey_iff.2 hkey)
  ascending := keys_ascending doc
  token v := by
    rw [mem_toMapping, h.separate.lookup_token]
    simp [eq_comm]
  server v := by
    rw [mem_toMapping, h.separate.lookup_server]
    simp [eq_comm]
  cni v := by
    rw [mem_toMapping, h.separate.lookup_cni]
  cniSet := by
    simp only [mem_toMapping, h.separate.lookup_cni]
    exact Setting.exists_toValue?
  tlsSan v := by
    rw [mem_toMapping, h.separate.lookup_tlsSan]
  tlsSanSet := by
    simp only [mem_toMapping, h.separate.lookup_tlsSan]
    exact Setting.exists_toValue?
  others key hkey v := by
    rw [mem_toMapping, lookup_namedValues_option, doc.options.ascending.mem_iff]
    rw [← isReservedKey_iff] at hkey
    exact Bool.not_eq_true _ ▸ hkey
  again := (foldlM_addEntry_iff doc.namedValues empty (ascending_namedValues doc).nodup).2 h.updates

/-! ## §4. Documents that were read and edited. -/

/-- **Whatever edits a document went through since it was read, it is written as
itself**, and a key that is understood is refused as an option. -/
theorem edited_written (start : RoleDocument) (edits : List Edit)
    (hstart : start = empty ∨ ∃ text, ofText text = .ok start) :
    (start.edited edits).Written
    ∧ ∀ key value,
        ((start.edited edits).insert? key value = none ↔ key ∈ reservedKeys)
        ∧ (key ∈ reservedKeys →
            (Edit.insert key value).apply (start.edited edits) = start.edited edits) := by
  have hsound : start.Sound := by
    rcases hstart with rfl | ⟨text, htext⟩
    · exact sound_empty
    · exact sound_of_ofText htext
  refine ⟨(hsound.represented.edited edits).written, fun key value => ?_⟩
  have hrefused : (start.edited edits).insert? key value = none ↔ key ∈ reservedKeys := by
    rw [insert?_eq_none, isReservedKey_iff]
  refine ⟨hrefused, fun hkey => ?_⟩
  show ((start.edited edits).insert? key value).getD (start.edited edits) = _
  rw [hrefused.2 hkey]
  rfl

/-- A list of plugins that is none, names in one text, and edits that are
refused or override each other. -/
theorem edited_written_mixedList :
    let text := "tls-san: a, b\ncni: [multus, 6]\ntoken: 12\ndisable: [x, y]\n"
    let edits : List Edit := [.insert "selinux" (.bool true), .insert "token" (.str "t"),
      .merge .deduplicate "a", .append "a", .setServer (some "https://a:9345"),
      .setCni (.list []), .setToken none, .setTlsSan (.map []), .normalize]
    let start : RoleDocument :=
      { empty with
        token := some "12"
        cni := .other (.list [.str "multus", .int 6])
        tlsSan := .single "a, b"
        options := Options.empty.insert "disable" (.list [.str "x", .str "y"]) }
    ofText text = .ok start ∧ (start.edited edits).Written := by
  intro text edits start
  have hread : ofText text = .ok start := eq_ok_of_toOption (by decide +kernel)
  exact ⟨hread, (edited_written start edits (.inr ⟨text, hread⟩)).1⟩

end RoleDocument

end ClusterBoot
