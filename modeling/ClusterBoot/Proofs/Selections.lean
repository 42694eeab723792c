/-
  ClusterBoot.Proofs.Selections
  ────────────────────────────────
  **THE BUNDLES AND THE NAMES OF A RELEASE'S FILES.**

  For the plugins that RKE2 knows the bundles of images are known on every
  architecture (`imageArtefacts_eq_ok_iff`).  Whatever a server document selects,
  the files that are fetched for it have names that lead nowhere but into the
  directory that they are stored in, and so have the files that they are received
  in (`select_names`).  There is always a file to install from and a bundle of
  images (`select_eq`).
-/
import ClusterBoot.Download
import ClusterBoot.Proofs.Paths

namespace ClusterBoot

open ClusterBoot.Path (IsName)

/-! ## §1. Names. -/

/-- A file that can be received beside its place in a directory. -/
structure IsArtefact (name : String) : Prop where
  /-- Its own name. -/
  isName : IsName name
  /-- The name of the file that it is received in. -/
  isName_part : IsName (name ++ ".part")
  /-- A star stands for it. -/
  visible : name.toList.head? ≠ some '.'

instance (name : String) : Decidable (IsArtefact name) :=
  decidable_of_iff (IsName name ∧ IsName (name ++ ".part") ∧ name.toList.head? ≠ some '.')
    ⟨fun h => ⟨h.1, h.2.1, h.2.2⟩, fun h => ⟨h.isName, h.isName_part, h.visible⟩⟩

/-- What RKE2 has bundles of images for. -/
def bundled : List String := ["core", "canal", "calico", "cilium", multus]

theorem isArtefact_installScriptName (d : Distribution) : IsArtefact d.installScriptName := by
  cases d <;> decide +kernel

theorem isArtefact_installArtefacts (d : Distribution) (arch : Arch) :
    ∀ name ∈ installArtefacts d arch, IsArtefact name := by
  cases d <;> cases arch <;> decide +kernel

theorem isArtefact_imageBundle (arch : Arch) :
    ∀ name ∈ bundled, IsArtefact (imageBundle arch name) := by
  cases arch <;> decide +kernel

/-! ## §2. Bundles. -/

namespace Plugins

/-- The primary plugins that RKE2 knows. -/
def known : List String := ["none", "canal", "calico", "cilium"]

/-- Whether plugins exist for an architecture. -/
def Available (arch : Arch) (plugins : Plugins) : Prop :=
  arch = .aarch64 →
    (plugins.primary = "none" ∨ plugins.primary = "canal") ∧ plugins.multus = false

/-- What there are bundles of: the core, the primary plugin unless it is none, and
`multus` if it is used. -/
def bundles (plugins : Plugins) : List String :=
  "core" :: (if plugins.primary = "none" then [] else [plugins.primary])
    ++ (if plugins.multus then ["multus"] else [])

theorem cases_of_known {primary : String} (h : primary ∈ known) :
    primary = "none" ∨ primary = "canal" ∨ primary = "calico" ∨ primary = "cilium" := by
  simpa [Plugins.known] using h

/-- A known plugin exists for an architecture unless it is one of those that do not
exist for `aarch64`. -/
theorem available_iff {arch : Arch} {plugins : Plugins} (h : plugins.primary ∈ known) :
    plugins.Available arch
      ↔ ¬ (arch = .aarch64 ∧ (plugins.primary = "calico" ∨ plugins.primary = "cilium"))
        ∧ ¬ (arch = .aarch64 ∧ plugins.multus = true) := by
  obtain ⟨primary, used⟩ := plugins
  rcases cases_of_known h with rfl | rfl | rfl | rfl <;> cases used <;> cases arch <;>
    simp [Available]

/-- There are only bundles of what RKE2 has bundles for. -/
theorem bundled_of_mem {plugins : Plugins} (h : plugins.primary ∈ known) :
    ∀ name ∈ plugins.bundles, name ∈ bundled := by
  obtain ⟨primary, used⟩ := plugins
  rcases cases_of_known h with rfl | rfl | rfl | rfl <;> cases used <;> decide

end Plugins

section Bundles

variable {arch : Arch} {plugins : Plugins}

/-- The bundles for a known plugin.  On `aarch64` a primary plugin that is missing
is reported before `multus` is. -/
theorem imageArtefacts_of_known (h : plugins.primary ∈ Plugins.known) :
    imageArtefacts arch plugins
      = if arch = .aarch64 ∧ (plugins.primary = "calico" ∨ plugins.primary = "cilium") then
          .error (.unsupportedPlatform plugins.primary .aarch64)
        else if arch = .aarch64 ∧ plugins.multus = true then
          .error (.unsupportedPlatform "multus" .aarch64)
        else .ok (plugins.bundles.map (imageBundle arch)) := by
  obtain ⟨primary, used⟩ := plugins
  rcases Plugins.cases_of_known h with rfl | rfl | rfl | rfl <;> cases used <;> cases arch <;> rfl

/-- A plugin that is not known is no plugin at all. -/
theorem imageArtefacts_of_unknown (h : plugins.primary ∉ Plugins.known) :
    ∃ fault, imageArtefacts arch plugins = .error (.cni fault) := by
  have hbundles : ∃ fault, pluginBundles arch plugins.primary = .error (.cni fault) := by
    simp only [Plugins.known, List.mem_cons, List.not_mem_nil, or_false, not_or] at h
    unfold pluginBundles
    rw [if_neg h.1, if_neg h.2.1, if_neg fun hother => hother.elim h.2.2.1 h.2.2.2]
    split
    · exact ⟨_, rfl⟩
    · exact ⟨_, rfl⟩
  obtain ⟨fault, hfault⟩ := hbundles
  refine ⟨fault, ?_⟩
  rw [imageArtefacts, hfault]
  rfl

/-- Bundles are found for known plugins that exist for the architecture. -/
theorem imageArtefacts_eq_ok_iff {images : List String} :
    imageArtefacts arch plugins = .ok images
      ↔ plugins.primary ∈ Plugins.known ∧ plugins.Available arch
        ∧ images = plugins.bundles.map (imageBundle arch) := by
  by_cases hknown : plugins.primary ∈ Plugins.known
  · rw [imageArtefacts_of_known hknown, Plugins.available_iff hknown]
    split
    next hprimary => simp [hprimary]
    next hprimary =>
      split
      next hmultus => simp [hmultus]
      next hmultus =>
        rw [Except.ok.injEq]
        exact ⟨fun himages => ⟨hknown, ⟨hprimary, hmultus⟩, himages.symm⟩,
          fun hall => hall.2.2.symm⟩
  · obtain ⟨fault, hfault⟩ : ∃ fault, imageArtefacts arch plugins = .error (.cni fault) :=
      imageArtefacts_of_unknown hknown
    rw [hfault]
    simp [hknown]

end Bundles

/-! ## §3. Selections. -/

/-- The selection for RKE2 with its bundles. -/
def rke2Selection (arch : Arch) (images : List String) : Selection :=
  ⟨.rke2, installArtefacts .rke2 arch, images⟩

section

variable {arch : Arch} {doc : RoleDocument}

/-- The selection for plugins is made of their bundles, or fails as they do. -/
theorem select_of_plugins {plugins : Plugins} (h : doc.cni.plugins = .ok plugins) :
    select .rke2 arch doc = (imageArtefacts arch plugins).map (rke2Selection arch) := by
  show (doc.cni.plugins >>= fun plugins => imageArtefacts arch plugins >>= fun images =>
    .ok (rke2Selection arch images)) = _
  rw [h]
  show (imageArtefacts arch plugins >>= fun images => .ok (rke2Selection arch images)) = _
  cases imageArtefacts arch plugins <;> rfl

/-- What is selected for RKE2 are the bundles of plugins that exist for the
architecture. -/
theorem plugins_of_select {s : Selection} (h : select .rke2 arch doc = .ok s) :
    ∃ plugins : Plugins, doc.cni.plugins = .ok plugins ∧ plugins.primary ∈ Plugins.known
      ∧ plugins.Available arch
      ∧ s = rke2Selection arch (plugins.bundles.map (imageBundle arch)) := by
  cases hplugins : doc.cni.plugins with
  | error failure =>
      rw [select, hplugins] at h
      cases h
  | ok plugins =>
      rw [select_of_plugins hplugins] at h
      cases himages : imageArtefacts arch plugins with
      | error failure =>
          rw [himages] at h
          cases h
      | ok images =>
          rw [himages] at h
          obtain rfl := Except.ok.inj h
          obtain ⟨hknown, havailable, rfl⟩ := imageArtefacts_eq_ok_iff.1 himages
          exact ⟨plugins, rfl, hknown, havailable, rfl⟩

end

/-- What is selected for a server document. -/
theorem select_eq {d : Distribution} {arch : Arch} {server : RoleDocument} {s : Selection}
    (h : select d arch server = .ok s) :
    s.distribution = d ∧ s.install = installArtefacts d arch ∧ s.images ≠ []
      ∧ ∀ image ∈ s.images, IsArtefact image := by
  cases d with
  | k3s =>
      -- the images of K3s are one archive
      obtain rfl := Except.ok.inj h
      refine ⟨rfl, rfl, by simp, ?_⟩
      cases arch <;> decide +kernel
  | rke2 =>
      obtain ⟨plugins, -, hknown, -, rfl⟩ := plugins_of_select h
      refine ⟨rfl, rfl, by simp [rke2Selection, Plugins.bundles], fun image himage => ?_⟩
      obtain ⟨name, hname, rfl⟩ := List.mem_map.1 himage
      exact isArtefact_imageBundle arch name (Plugins.bundled_of_mem hknown name hname)

/-- Everything that is fetched for a selection can be received in a
directory. -/
theorem select_names {d : Distribution} {arch : Arch} {server : RoleDocument} {s : Selection}
    (h : select d arch server = .ok s) :
    ∀ name ∈ s.installScript :: s.install ++ s.images, IsArtefact name := by
  obtain ⟨rfl, hinstall, -, himages⟩ := select_eq h
  intro name hname
  rw [List.cons_append, List.mem_cons, List.mem_append, hinstall] at hname
  rcases hname with rfl | hname | hname
  · exact isArtefact_installScriptName _
  · exact isArtefact_installArtefacts _ arch name hname
  · exact himages name hname

end ClusterBoot
