/-
  ClusterBoot.Proofs.PluginSelections
  ────────────────────────────────
  **WHICH PLUGINS CAN BE SELECTED, AND WHAT IS FETCHED FOR THEM.**

  The plugins of a cluster are checked twice: once as a list of entries, where
  any name can stand for the primary plugin, and once by name, when their bundles
  are looked up.  `Chooses` says which entries pass both checks.  For such entries
  the bundles decide (`select_chosen`); for any others the setting is at fault
  (`select_unchosen`).  `selection_decided` puts this together for all settings.
-/
import ClusterBoot.Proofs.Pieces
import ClusterBoot.Proofs.Selections
import Mathlib.Data.List.Nodup

namespace ClusterBoot

/-! ## §1. Entries and choices. -/

/-- Which entries a setting lists.  A text lists its segments between commas, and
all entries are trimmed. -/
inductive Setting.ListsEntries : Setting → List String → Prop
  | single {text : String} {segments : List String} (h : Text.Segments ',' text segments) :
      ListsEntries (.single text) (segments.map Text.trim)
  | list (items : List String) : ListsEntries (.list items) (items.map Text.trim)

/-- A setting lists its entries and nothing else. -/
theorem Setting.listsEntries_iff {setting : Setting} {entries : List String} :
    setting.ListsEntries entries ↔ setting.entries? = .ok entries := by
  constructor
  · intro h
    cases h with
    | single h => rw [Text.segments_iff.1 h]; rfl
    | list items => rfl
  · intro h
    cases setting with
    | single text =>
        obtain rfl := Except.ok.inj h
        exact .single (Text.segments_iff.2 rfl)
    | list items =>
        obtain rfl := Except.ok.inj h
        exact .list items
    | absent | other => cases h

namespace Plugins

/-- The entries that choose plugins: a primary plugin, or `multus` and a primary
plugin. -/
inductive Chooses : List String → Plugins → Prop
  | alone {primary : String} (h : primary ∈ known) : Chooses [primary] ⟨primary, false⟩
  | besideMultus {primary : String} (h : primary ∈ known) :
      Chooses ["multus", primary] ⟨primary, true⟩

theorem Chooses.known {entries : List String} {plugins : Plugins} (h : Chooses entries plugins) :
    plugins.primary ∈ known := by
  cases h with
  | alone h => exact h
  | besideMultus h => exact h

/-- Entries that choose plugins pass the first check. -/
theorem Chooses.ofEntries_eq {entries : List String} {plugins : Plugins}
    (h : Chooses entries plugins) : ofEntries entries = .ok plugins := by
  cases h with
  | @alone primary h =>
      -- `multus` alone is refused, and it is no primary plugin
      have hne : primary ≠ ClusterBoot.multus := by
        rintro rfl
        exact absurd h (by decide)
      exact if_neg hne
  | besideMultus h => rfl

/-- Entries that pass the first check and name a known plugin choose it. -/
theorem chooses_of_ofEntries {entries : List String} {plugins : Plugins}
    (h : ofEntries entries = .ok plugins) (hknown : plugins.primary ∈ known) :
    Chooses entries plugins := by
  unfold ofEntries at h
  split at h
  next => cases h
  next =>
    split at h
    next => cases h
    next =>
      obtain rfl := Except.ok.inj h
      exact .alone hknown
  next =>
    split at h
    next hfirst =>
      obtain rfl := Except.ok.inj h
      obtain rfl := hfirst
      exact .besideMultus hknown
    next => cases h
  next => cases h

end Plugins

/-! ## §2. Bundles. -/

theorem imageBundle_injective (arch : Arch) : Function.Injective (imageBundle arch) := by
  intro a b h
  unfold imageBundle at h
  rwa [String.append_left_inj, String.append_left_inj, String.append_left_inj,
    String.append_right_inj] at h

/-- No bundle is fetched twice. -/
theorem Plugins.nodup_bundles {plugins : Plugins} (h : plugins.primary ∈ Plugins.known) :
    plugins.bundles.Nodup := by
  obtain ⟨primary, used⟩ := plugins
  rcases Plugins.cases_of_known h with rfl | rfl | rfl | rfl <;> cases used <;> decide

/-! ## §3. Selections. -/

variable {arch : Arch} {doc : RoleDocument}

/-- What a setting selects is what its entries select. -/
theorem Setting.plugins_of_entries {setting : Setting} {entries : List String} {plugins : Plugins}
    (hentries : setting.ListsEntries entries) (h : Plugins.ofEntries entries = .ok plugins) :
    setting.plugins = .ok plugins := by
  simp only [Setting.plugins, Setting.listsEntries_iff.1 hentries, Except.bind, h]

/-- A setting selects what its entries select, or is at fault. -/
theorem Setting.plugins_cases (setting : Setting) :
    (∃ entries plugins, setting.ListsEntries entries ∧ Plugins.ofEntries entries = .ok plugins
        ∧ setting.plugins = .ok plugins)
      ∨ ∃ fault, setting.plugins = .error (.cni fault) := by
  cases hentries : setting.entries? with
  | error fault =>
      exact .inr ⟨fault, by simp only [Setting.plugins, hentries, Except.bind]⟩
  | ok entries =>
      cases hplugins : Plugins.ofEntries entries with
      | error fault =>
          exact .inr ⟨fault, by simp only [Setting.plugins, hentries, Except.bind, hplugins]⟩
      | ok plugins =>
          have hlists := Setting.listsEntries_iff.2 hentries
          exact .inl ⟨entries, plugins, hlists, hplugins,
            Setting.plugins_of_entries hlists hplugins⟩

/-- Entries that choose plugins select their bundles. -/
theorem select_chosen {entries : List String} {plugins : Plugins}
    (hentries : doc.cni.ListsEntries entries) (h : Plugins.Chooses entries plugins) :
    select .rke2 arch doc = (imageArtefacts arch plugins).map (rke2Selection arch) :=
  select_of_plugins (Setting.plugins_of_entries hentries h.ofEntries_eq)

/-- A selection comes from entries that choose plugins. -/
theorem chosen_of_select {s : Selection} (h : select .rke2 arch doc = .ok s) :
    ∃ entries plugins, doc.cni.ListsEntries entries ∧ Plugins.Chooses entries plugins
      ∧ plugins.Available arch
      ∧ s = rke2Selection arch (plugins.bundles.map (imageBundle arch)) := by
  obtain ⟨plugins, hplugins, hknown, havailable, rfl⟩ := plugins_of_select h
  rcases doc.cni.plugins_cases with ⟨entries, same, hentries, hfirst, hsame⟩ | ⟨fault, hfault⟩
  · obtain rfl := Except.ok.inj (hplugins.symm.trans hsame)
    exact ⟨entries, plugins, hentries, Plugins.chooses_of_ofEntries hfirst hknown, havailable, rfl⟩
  · rw [hfault] at hplugins
    cases hplugins

/-- **Where nothing chooses plugins, the setting is at fault**, be it by its entries
or by the name of its primary plugin. -/
theorem select_unchosen
    (h : ∀ entries plugins, doc.cni.ListsEntries entries → ¬ Plugins.Chooses entries plugins) :
    ∃ fault, select .rke2 arch doc = .error (.cni fault) := by
  rcases doc.cni.plugins_cases with ⟨entries, plugins, hentries, hfirst, hplugins⟩ | ⟨fault, hfault⟩
  · have hunknown : plugins.primary ∉ Plugins.known := fun hknown =>
      h entries plugins hentries (Plugins.chooses_of_ofEntries hfirst hknown)
    obtain ⟨fault, hfault⟩ : ∃ fault, imageArtefacts arch plugins = .error (.cni fault) :=
      imageArtefacts_of_unknown hunknown
    refine ⟨fault, ?_⟩
    rw [select_of_plugins hplugins, hfault]
    rfl
  · refine ⟨fault, ?_⟩
    rw [select, hfault]
    rfl

/-- What is selected for a server document on an architecture. -/
structure SelectionDecided (arch : Arch) (doc : RoleDocument) : Prop where
  /-- RKE2 is selected exactly for entries that choose plugins which exist for the
  architecture, and with their bundles. -/
  selected : ∀ s, select .rke2 arch doc = .ok s
    ↔ ∃ entries plugins, doc.cni.ListsEntries entries ∧ Plugins.Chooses entries plugins
      ∧ plugins.Available arch
      ∧ s = ⟨.rke2, installArtefacts .rke2 arch, plugins.bundles.map fun name =>
          "rke2-images-" ++ name ++ ".linux-" ++ arch.releaseName ++ ".tar.zst"⟩
  /-- No bundle is selected twice. -/
  distinct : ∀ s, select .rke2 arch doc = .ok s → s.images.Nodup
  /-- Two primary plugins do not exist for `aarch64`; -/
  primaryMissing : ∀ entries plugins, doc.cni.ListsEntries entries →
    Plugins.Chooses entries plugins → arch = .aarch64 →
    plugins.primary = "calico" ∨ plugins.primary = "cilium" →
    select .rke2 arch doc = .error (.unsupportedPlatform plugins.primary .aarch64)
  /-- beside the others `multus` is what does not exist. -/
  multusMissing : ∀ entries plugins, doc.cni.ListsEntries entries →
    Plugins.Chooses entries plugins → arch = .aarch64 →
    plugins.primary = "none" ∨ plugins.primary = "canal" → plugins.multus = true →
    select .rke2 arch doc = .error (.unsupportedPlatform "multus" .aarch64)
  /-- A setting that chooses no plugins is at fault. -/
  atFault : (∀ entries plugins, doc.cni.ListsEntries entries →
      ¬ Plugins.Chooses entries plugins) →
    ∃ fault, select .rke2 arch doc = .error (.cni fault)
  /-- The selection for K3s does not depend on the document. -/
  k3s : select .k3s arch doc = .ok ⟨.k3s, installArtefacts .k3s arch,
    ["k3s-airgap-images-" ++ arch.releaseName ++ ".tar.zst"]⟩

/-- **What is selected is decided by the entries and the architecture.** -/
theorem selection_decided (arch : Arch) (doc : RoleDocument) : SelectionDecided arch doc where
  selected s := by
    constructor
    · exact chosen_of_select
    · rintro ⟨entries, plugins, hentries, hchooses, havailable, rfl⟩
      rw [select_chosen hentries hchooses,
          imageArtefacts_eq_ok_iff.2 ⟨hchooses.known, havailable, rfl⟩]
      rfl
  distinct s hs := by
    obtain ⟨entries, plugins, -, hchooses, -, rfl⟩ := chosen_of_select hs
    show (plugins.bundles.map (imageBundle arch)).Nodup
    exact (Plugins.nodup_bundles hchooses.known).map (imageBundle_injective arch)
  primaryMissing entries plugins hentries hchooses harch hprimary := by
    rw [select_chosen hentries hchooses, imageArtefacts_of_known hchooses.known,
        if_pos ⟨harch, hprimary⟩]
    rfl
  multusMissing entries plugins hentries hchooses harch hprimary hmultus := by
    have hother :
        ¬ (arch = .aarch64 ∧ (plugins.primary = "calico" ∨ plugins.primary = "cilium")) := by
      rcases hprimary with hprimary | hprimary <;> simp [hprimary]
    rw [select_chosen hentries hchooses, imageArtefacts_of_known hchooses.known, if_neg hother,
        if_pos ⟨harch, hmultus⟩]
    rfl
  atFault := select_unchosen
  k3s := rfl

/-- Blanks around the entries of a text do not count. -/
example :
    (select .rke2 .x86_64
        { RoleDocument.empty with cni := .single "multus , cilium" }).toOption.map (·.images)
    = some ["rke2-images-core.linux-amd64.tar.zst", "rke2-images-cilium.linux-amd64.tar.zst",
        "rke2-images-multus.linux-amd64.tar.zst"] := by
  decide +kernel

end ClusterBoot
