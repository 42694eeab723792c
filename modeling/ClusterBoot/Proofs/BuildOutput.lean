/-
  ClusterBoot.Proofs.BuildOutput
  ────────────────────────────────
  **WHAT A BUILD THAT SUCCEEDS LEAVES BEHIND.**

  The paths of the files of a build are put together twice: by joining, where
  they are written, and in the text of the script, where they are used.
  `run_complete` says that both agree: whatever the script needs is there.  It
  says too what the role documents and the script hold, and that no other file
  is changed.

  Each part of a build stores its files (`…_stores`), and what a part stored
  stays until the end (`admits_keepsStored`), because everything is two
  directories below the output directory and the script is beside them.
-/
import ClusterBoot.Proofs.BuildEffects
import ClusterBoot.Proofs.Derivation
import ClusterBoot.Proofs.ScriptReferences

namespace ClusterBoot.Build

open ClusterBoot.Action FileTree
open ClusterBoot.Path (IsName target)

/-! ## §1. What stays. -/

/-- A success keeps what is at a location. -/
def KeepsPlace (l : Location) : Bool → World → World → Prop :=
  fun ok w w' => ok = true → Keeps l w.tree w'.tree

/-- A file is stored under the directory of everything but the script. -/
def IsStored (output : String) (t : FileTree) (sub name : String) : Prop :=
  t.Stored output Layout.kubernetesDir sub name

/-- A success keeps the files that are stored. -/
def KeepsStored (output : String) : Bool → World → World → Prop :=
  fun ok w w' => ok = true → ∀ sub name, IsStored output w.tree sub name →
    IsStored output w'.tree sub name

theorem composable_keepsPlace (l : Location) : Composable (KeepsPlace l) :=
  ⟨fun _ _ _ => .refl _ _, fun h h' hok => (h rfl).trans (h' hok)⟩

/-- What is elsewhere than where files are written stays. -/
theorem admits_keepsPlace (l : Location) : Admits (KeepsPlace l) (fun path => target path ≠ l) where
  composable := composable_keepsPlace l
  print _ _ _ := .refl _ _
  makeDirs _ path w _ := keeps_makeDirs l w.tree path
  write refused path content hpath w hok := by
    rw [runIn_change] at hok ⊢
    split
    next tree hwrite => exact .inl (get?_write? hwrite hpath.symm)
    next => exact .refl _ _

/-- A download that succeeds did what an exact downloader does. -/
theorem run_ok {d : Downloader} (hd : d.Exact) {url path : String} {w w' : World}
    (h : (d.run url path).runIn w = (.ok (), w')) :
    (∃ content, w'.tree.read path = .ok content)
      ∧ ∀ l, l ≠ target path → w'.tree.get? l = w.tree.get? l := by
  obtain ⟨hresult, hworld⟩ := Prod.mk.inj h
  have htree : (d.fetch w.requests url path w.tree).2 = w'.tree := congrArg World.tree hworld
  exact hd w.requests url path w.tree w'.tree (Prod.ext hresult htree)

theorem admitsFetch_keepsPlace {d : Downloader} (hd : d.Exact) (l : Location) :
    AdmitsFetch d (KeepsPlace l) (fun path => target path ≠ l) := by
  intro url path hpath w hok
  rcases hrun : (d.run url path).runIn w with ⟨e | x, w'⟩
  · rw [hrun] at hok
    exact absurd hok (by simp [Except.isOk, Except.toBool])
  · exact .inl ((run_ok hd hrun).2 l hpath.symm)

/-- The places on the way to a stored file. -/
theorem stored_places (output sub : String) {path : String}
    (h : InKubernetes output path) :
    target output ++ [Layout.kubernetesDir] ≠ target path
      ∧ target output ++ [Layout.kubernetesDir, sub] ≠ target path := by
  obtain ⟨sub', name', hsub, hname, rfl⟩ := h
  rw [target_inKubernetes hsub hname.isName]
  constructor <;> simp

/-- A stored file stays if nothing but another one changes. -/
theorem stored_of_keeps {output path sub name : String} {t t' : FileTree}
    (hpath : InKubernetes output path) (hfile : (t'.fileAt (target path)).isSome = true)
    (hkeeps : ∀ l, l ≠ target path → Keeps l t t') (h : IsStored output t sub name) :
    IsStored output t' sub name := by
  obtain ⟨houter, hinner⟩ := stored_places output sub hpath
  refine ⟨h.usable, h.sizes, (hkeeps _ houter).get?_eq h.outer, (hkeeps _ hinner).get?_eq h.inner, ?_⟩
  -- the file itself may be the one that is stored again; it is a file then too
  by_cases hl : target output ++ [Layout.kubernetesDir, sub, name] = target path
  · rw [hl]
    exact hfile
  · rw [(hkeeps _ hl).fileAt_eq]
    exact h.file

theorem isSome_fileAt {t : FileTree} {path : String} {content : ByteArray}
    (h : t.read path = .ok content) :
    ∃ executable, t.fileAt (target path) = some (content, executable) := by
  obtain ⟨-, executable, hget⟩ := read_eq_ok.1 h
  exact ⟨executable, by rw [fileAt, hget]⟩

/-- What is stored stays while other files are stored. -/
theorem admits_keepsStored (output : String) :
    Admits (KeepsStored output) (InKubernetes output) where
  composable := ⟨fun _ _ _ _ _ h => h, fun h h' hok sub name hs => h' hok sub name (h rfl sub name hs)⟩
  print _ _ _ _ _ h := h
  makeDirs _ path w _ sub name h :=
    have hkeeps := fun l => keeps_makeDirs l w.tree path
    ⟨h.usable, h.sizes, (hkeeps _).get?_eq h.outer, (hkeeps _).get?_eq h.inner, by
      rw [runIn_makeDirs, (hkeeps _).fileAt_eq]
      exact h.file⟩
  write refused path content hpath w hok sub name h := by
    rw [runIn_change] at hok ⊢
    split
    next tree hwrite =>
      obtain ⟨executable, hfile⟩ := isSome_fileAt (read_of_write? hwrite)
      exact stored_of_keeps hpath (by simp [hfile]) (fun l hl => .inl (get?_write? hwrite hl)) h
    next => exact h

theorem admitsFetch_keepsStored {d : Downloader} (hd : d.Exact) (output : String) :
    AdmitsFetch d (KeepsStored output) (InKubernetes output) := by
  intro url path hpath w hok sub name h
  rcases hrun : (d.run url path).runIn w with ⟨e | x, w'⟩
  · rw [hrun] at hok
    exact absurd hok (by simp [Except.isOk, Except.toBool])
  · obtain ⟨⟨content, hread⟩, hkeeps⟩ := run_ok hd hrun
    obtain ⟨executable, hfile⟩ := isSome_fileAt hread
    exact stored_of_keeps hpath (by simp [hfile]) (fun l hl => .inl (hkeeps l hl)) h

/-! ## §2. What each part stores. -/

section
variable {output : String} {w w' : World}

/-- A text that was written can be read. -/
theorem writeText_ok {path text : String} (h : (writeText path text).runIn w = (.ok (), w')) :
    w'.tree.read path = .ok text.toUTF8 := by
  obtain ⟨made, -, ⟨e, herror⟩ | ⟨tree, hwrite, hok⟩⟩ := writeText_spec path text w
  · rw [herror] at h
    exact absurd (Prod.mk.inj h).1 (by simp)
  · rw [hok] at h
    obtain rfl := (Prod.mk.inj h).2
    exact read_of_write? hwrite

/-- A file that can be read in a directory of the output is stored. -/
theorem isStored_of_read {t : FileTree} {sub name : String} {content : ByteArray}
    (hsub : IsName sub) (hname : IsName name)
    (h : t.read (Path.join (Path.join (Layout.kubernetes output) sub) name) = .ok content) :
    IsStored output t sub name :=
  stored_of_read (by decide) hsub hname h

/-- The role documents are stored, with their texts. -/
theorem writeDocuments_stores {docs : List (String × RoleDocument)} {paths : List String}
    (hnames : ∀ doc ∈ docs, IsArtefact doc.1) (hdistinct : (docs.map (·.1)).Nodup)
    (h : (writeDocuments (Layout.documents output) docs).runIn w = (.ok paths, w')) :
    ∀ doc ∈ docs, IsStored output w'.tree Layout.configDir doc.1
      ∧ ∃ executable, w'.tree.fileAt (target (Path.join (Layout.documents output) doc.1))
        = some (doc.2.toText.toUTF8, executable) := by
  induction docs generalizing w w' paths with
  | nil => simp
  | cons doc docs ih =>
      obtain ⟨name, text⟩ := doc
      have hrest : ∀ other ∈ docs, IsArtefact other.1 := fun other hother =>
        hnames other (List.mem_cons_of_mem _ hother)
      rw [List.map_cons, List.nodup_cons] at hdistinct
      obtain ⟨⟨⟩, w₁, hwrite, h⟩ := bind_ok h
      obtain ⟨⟨⟩, w₂, hprint, h⟩ := bind_ok h
      obtain ⟨paths', w₃, hdocs, h⟩ := bind_ok h
      obtain rfl : w₃ = w' := (Prod.mk.inj h).2
      obtain rfl : { w₁ with printed := _ } = w₂ := (Prod.mk.inj hprint).2
      have hread := writeText_ok hwrite
      intro other hother
      rcases List.mem_cons.1 hother with rfl | hother
      -- the documents that follow have other names, so they leave this text alone
      · have hname := (hnames (name, text) (by simp)).isName
        have hin : ∀ other ∈ docs,
            InKubernetes output (Path.join (Layout.documents output) other.1) := fun other hother =>
          ⟨Layout.configDir, other.1, by decide, hrest other hother, rfl⟩
        have hne : ∀ other ∈ docs, target (Path.join (Layout.documents output) other.1)
            ≠ target (Path.join (Layout.documents output) name) := by
          intro other hother heq
          rw [Path.target_join (hrest other hother).isName, Path.target_join hname] at heq
          have hsame := (List.append_inj' heq rfl).2
          exact hdistinct.1 (List.mem_map.2 ⟨other, hother, (List.cons.inj hsame).1⟩)
        have hstored := ((admits_keepsStored output).writeDocuments _ docs hin).of_ok hdocs rfl
        have hkept := ((admits_keepsPlace _).writeDocuments _ docs hne).of_ok hdocs rfl
        refine ⟨hstored _ _ (isStored_of_read (by decide) hname hread), ?_⟩
        rw [hkept.fileAt_eq]
        exact isSome_fileAt hread
      · exact ih hrest hdistinct.2 hdocs other hother

/-- The files that were fetched are stored. -/
theorem fetchAll_stores {d : Downloader} (hd : d.Exact) {fs : List Fetch}
    (hin : ∀ f ∈ fs, InKubernetes output f.path)
    (h : (fetchAll d fs).runIn w = (.ok (), w')) :
    ∀ f ∈ fs, ∀ sub name, IsName sub → IsName name →
      f.path = Path.join (Path.join (Layout.kubernetes output) sub) name →
      IsStored output w'.tree sub name := by
  induction fs generalizing w with
  | nil => simp
  | cons f fs ih =>
      have hrest : ∀ g ∈ fs, InKubernetes output g.path := fun g hg =>
        hin g (List.mem_cons_of_mem _ hg)
      obtain ⟨⟨⟩, w₁, hfetch, hmore⟩ := bind_ok h
      intro g hg sub name hsub hname hpath
      rcases List.mem_cons.1 hg with rfl | hg
      · obtain ⟨⟨content, hread⟩, -⟩ := run_ok hd (mapError_ok hfetch)
        rw [hpath] at hread
        have hstored := ((admits_keepsStored output).fetchAll (admitsFetch_keepsStored hd output)
          hrest).of_ok hmore rfl
        exact hstored _ _ (isStored_of_read hsub hname hread)
      · exact ih hrest hmore g hg sub name hsub hname hpath

end

section
variable {d : Downloader} {r : BuildRequest} {w w' : World}

/-- Unless they are skipped, the artefacts are stored. -/
theorem fetchSelection_stores (hd : d.Exact) {selection : Selection}
    {artefacts : Option Layout.ArtefactPaths}
    (hnames : ∀ name ∈ selection.installScript :: selection.install ++ selection.images,
      IsArtefact name)
    (h : (fetchSelection d r selection).runIn w = (.ok artefacts, w'))
    (hskip : r.settings.skipArtefacts = false) :
    (∀ name ∈ selection.installScript :: selection.install,
        IsStored r.output w'.tree Layout.installDir name)
      ∧ ∀ name ∈ selection.images, IsStored r.output w'.tree Layout.imagesDir name := by
  unfold fetchSelection at h
  rw [if_neg (by simp [hskip])] at h
  obtain ⟨⟨⟩, w₁, -, h⟩ := bind_ok h
  obtain ⟨paths, w₂, hfetch, h⟩ := bind_ok h
  obtain ⟨⟨⟩, w₃, hprint, h⟩ := bind_ok h
  -- two directories are made, then everything is fetched
  obtain ⟨⟨⟩, w₄, -, hfetch⟩ := bind_ok (mapError_ok hfetch)
  obtain ⟨⟨⟩, w₅, -, hfetch⟩ := bind_ok hfetch
  obtain ⟨⟨⟩, w₆, hall, hfetch⟩ := bind_ok hfetch
  -- what comes after the fetching only prints
  have htree : w'.tree = w₆.tree := by
    rw [(pure_ok h).2, print_ok hprint, (pure_ok hfetch).2]
  rw [htree]
  have hstored : ∀ f ∈ fetches r selection, ∀ sub name, IsName sub → IsName name →
      f.path = Path.join (Path.join (Layout.kubernetes r.output) sub) name →
      IsStored r.output w₆.tree sub name :=
    fetchAll_stores hd (inKubernetes_fetches hnames) hall
  have hpath : ∀ sub name, IsName sub → name ∈ selection.installScript :: selection.install
      ++ selection.images → (∃ f ∈ fetches r selection,
        f.path = Path.join (Path.join (Layout.kubernetes r.output) sub) name) →
      IsStored r.output w₆.tree sub name := by
    intro sub name hsub hname h
    obtain ⟨f, hf, hpath⟩ := h
    exact hstored f hf sub name hsub (hnames name hname).isName hpath
  constructor
  · intro name hname
    apply hpath _ _ (by decide) (List.mem_append_left _ hname)
    rcases List.mem_cons.1 hname with rfl | hinstall
    · exact ⟨_, List.mem_cons_self .., rfl⟩
    · exact ⟨_, List.mem_append_left _ (List.mem_cons_of_mem _ (List.mem_map_of_mem hinstall)), rfl⟩
  · intro name himage
    apply hpath _ _ (by decide) (List.mem_append_right _ himage)
    exact ⟨_, List.mem_append_right _ (List.mem_map_of_mem himage), rfl⟩

/-- The signing key is stored, and what was stored before stays. -/
theorem fetchSigningKey_stores (hd : d.Exact) {path : String}
    (h : (fetchSigningKey d r.settings.sources (Layout.keys r.output)).runIn w = (.ok path, w')) :
    IsStored r.output w'.tree Layout.keysDir SelinuxPolicy.signingKeyFile
      ∧ ∀ sub name, IsStored r.output w.tree sub name → IsStored r.output w'.tree sub name := by
  obtain ⟨⟨⟩, w₁, hdirs, h⟩ := bind_ok h
  obtain ⟨⟨⟩, w₂, hfetch, h⟩ := bind_ok h
  obtain ⟨-, rfl⟩ := pure_ok h
  have hfetched := mapError_ok hfetch
  obtain ⟨⟨content, hread⟩, -⟩ := run_ok hd hfetched
  refine ⟨isStored_of_read (by decide) (by decide) hread, ?_⟩
  intro sub name hstored
  have hkept := ((admits_keepsStored r.output).makeDirs _ _).of_ok hdirs rfl _ _ hstored
  exact (admitsFetch_keepsStored hd r.output _ _ (inKubernetes_key r)).of_ok hfetched rfl _ _ hkept

/-- What the script says about the SELinux policy. -/
def selinuxInstall (r : BuildRequest) (d : Distribution) (server : RoleDocument) :
    Option SelinuxInstall :=
  if server.selinuxEnabled then
    let policy := SelinuxPolicy.ofDistribution d r.settings.sources
    some ⟨policy.package, Layout.repositoryFileInScript policy.repositoryFile,
      if r.settings.skipArtefacts then none else some Layout.signingKeyInScript⟩
  else none

/-- Preparing the policy of a distribution writes its repository file and, unless
artefacts are skipped, fetches the key. -/
theorem prepareSelinux_ok {distribution : Distribution} {policy : SelinuxPolicy}
    {install : SelinuxInstall}
    (hdistribution : Distribution.ofVersion r.definition.cluster.version = .ok distribution)
    (h : (prepareSelinux d r).runIn w = (.ok (policy, install), w')) :
    policy = .ofDistribution distribution r.settings.sources
      ∧ install = ⟨policy.package, Layout.repositoryFileInScript policy.repositoryFile,
          if r.settings.skipArtefacts then none else some Layout.signingKeyInScript⟩
      ∧ ∃ w₁, (writeText (Layout.repositoryFile r.output policy.repositoryFile)
            policy.repositoryText).runIn w = (.ok (), w₁)
        ∧ (r.settings.skipArtefacts = true → w'.tree = w₁.tree)
        ∧ (r.settings.skipArtefacts = false → ∃ path w₂,
            (fetchSigningKey d r.settings.sources (Layout.keys r.output)).runIn w₁ = (.ok path, w₂)
              ∧ w'.tree = w₂.tree) := by
  unfold prepareSelinux at h
  have hpolicy : SelinuxPolicy.ofVersion r.definition.cluster.version r.settings.sources
      = .ok (.ofDistribution distribution r.settings.sources) := by
    rw [SelinuxPolicy.ofVersion, hdistribution]
    rfl
  rw [hpolicy, mapError_ofExcept_ok, pure_bind] at h
  obtain ⟨⟨⟩, w₁, hwrite, h⟩ := bind_ok h
  cases hskip : r.settings.skipArtefacts with
  | true =>
      rw [hskip, if_pos rfl, pure_bind] at h
      obtain ⟨⟨⟩, w₂, hprint, h⟩ := bind_ok h
      obtain ⟨hvalue, rfl⟩ := pure_ok h
      cases hvalue
      exact ⟨rfl, rfl, w₁, hwrite, fun _ => print_ok hprint, fun h => absurd h (by simp)⟩
  | false =>
      rw [hskip, if_neg (by simp)] at h
      obtain ⟨path, w₂, hkey, h⟩ := bind_ok h
      rw [pure_bind] at h
      obtain ⟨⟨⟩, w₃, hprint, h⟩ := bind_ok h
      obtain ⟨hvalue, rfl⟩ := pure_ok h
      cases hvalue
      exact ⟨rfl, rfl, w₁, hwrite, fun h => absurd h (by simp),
        fun _ => ⟨path, w₂, mapError_ok hkey, print_ok hprint⟩⟩

/-- The repository file and the key are stored, and the script learns where. -/
theorem selinuxFor_stores (hd : d.Exact) {distribution : Distribution} {server : RoleDocument}
    {selinux : Option (SelinuxPolicy × SelinuxInstall)}
    (hdistribution : Distribution.ofVersion r.definition.cluster.version = .ok distribution)
    (h : (selinuxFor d r server).runIn w = (.ok selinux, w')) :
    selinux.map (·.2) = selinuxInstall r distribution server
      ∧ (server.selinuxEnabled = true →
        IsStored r.output w'.tree Layout.repositoriesDir (distribution.name ++ "-selinux" ++ ".repo")
          ∧ (r.settings.skipArtefacts = false →
            IsStored r.output w'.tree Layout.keysDir SelinuxPolicy.signingKeyFile)) := by
  unfold selinuxFor at h
  unfold selinuxInstall
  by_cases hserver : server.selinuxEnabled = true
  · rw [if_pos hserver] at h ⊢
    rw [map_eq_bind] at h
    obtain ⟨⟨policy, install⟩, w₁, h, hsome⟩ := bind_ok h
    obtain ⟨rfl, rfl⟩ := pure_ok hsome
    obtain ⟨rfl, rfl, w₂, hwrite, hskipped, hfetched⟩ := prepareSelinux_ok hdistribution h
    have hrepository : IsStored r.output w₂.tree Layout.repositoriesDir
        (distribution.name ++ "-selinux" ++ ".repo") :=
      isStored_of_read (by decide) (isArtefact_repositoryFile distribution).isName
        (writeText_ok hwrite)
    refine ⟨rfl, fun _ => ?_⟩
    cases hskip : r.settings.skipArtefacts with
    | true =>
        rw [hskipped hskip]
        exact ⟨hrepository, fun h => absurd h (by simp)⟩
    | false =>
        -- the repository file is there before the key is fetched, and stays
        obtain ⟨path, w₃, hkey, htree⟩ := hfetched hskip
        obtain ⟨hstored, hkept⟩ := fetchSigningKey_stores hd hkey
        rw [htree]
        exact ⟨hkept _ _ hrepository, fun _ => hstored⟩
  · rw [if_neg hserver] at h ⊢
    obtain ⟨rfl, -⟩ := pure_ok h
    exact ⟨rfl, fun h => absurd h hserver⟩

/-- The manifest of the virtual addresses is stored. -/
theorem writeVipManifest_stores {output : String} {addresses : Option VirtualAddresses}
    {manifest : Option String}
    (h : (writeVipManifest output addresses).runIn w = (.ok manifest, w')) :
    manifest.isSome = addresses.isSome ∧ (addresses.isSome = true →
      IsStored output w'.tree Layout.manifestsDir Layout.vipManifestFile) := by
  cases addresses with
  | none =>
      obtain ⟨rfl, -⟩ := pure_ok h
      exact ⟨rfl, fun h => absurd h (by simp)⟩
  | some v =>
      obtain ⟨⟨⟩, w₁, hwrite, h⟩ := bind_ok h
      obtain ⟨⟨⟩, w₂, hprint, h⟩ := bind_ok h
      obtain ⟨rfl, rfl⟩ := pure_ok h
      rw [print_ok hprint]
      exact ⟨rfl, fun _ => isStored_of_read (by decide) (by decide) (writeText_ok hwrite)⟩

/-- The script has its text and can be run, the output directory can be
reached, and nothing else is changed. -/
theorem writeScript_stores {output script : String}
    (h : (writeScript output script).runIn w = (.ok (), w')) :
    w'.tree.read (Layout.script output) = .ok script.toUTF8
      ∧ w'.tree.fileAt (target (Layout.script output)) = some (script.toUTF8, true)
      ∧ w'.tree.directory? output = some (target output)
      ∧ ∀ l, l ≠ target (Layout.script output) → Keeps l w.tree w'.tree := by
  obtain ⟨⟨⟩, w₁, htext, h⟩ := bind_ok h
  obtain ⟨made, hmade, ⟨e, herror⟩ | ⟨tree, hwrite, hok⟩⟩ :=
    writeText_spec (Layout.script output) script w
  · rw [herror] at htext
    exact absurd (Prod.mk.inj htext).1 (by simp)
  · rw [hok] at htext
    obtain rfl := (Prod.mk.inj htext).2
    -- the mode is changed of the file that was just written, so its text is the same
    obtain ⟨hfound, content, executable, hget, htree⟩ := makeExecutable?_eq_some (change_ok h)
    obtain ⟨-, executable', hget'⟩ := read_eq_ok.1 (read_of_write? hwrite)
    obtain ⟨rfl, -⟩ := FileEntry.file.inj (Option.some.inj (hget'.symm.trans hget))
    have hdir : tree.get? (target (Layout.script output)) ≠ some .directory := by
      rw [hget']
      simp
    have hnew : w'.tree.get? (target (Layout.script output)) = some (.file script.toUTF8 true) := by
      rw [htree]
      exact get?_put_self _ hdir
    have hfound' : w'.tree.locate (Layout.script output) = .ok (target (Layout.script output)) := by
      rw [htree]
      exact locate_put_file hfound hdir
    obtain ⟨-, -, m, hm, -⟩ := (locate_join (by decide : IsName Layout.scriptFile)).1 hfound'
    refine ⟨read_eq_ok.2 ⟨hfound', true, hnew⟩, by rw [fileAt, hnew], ?_, ?_⟩
    · rw [← directory?_eq_target hm]
      exact hm
    · intro l hl
      -- making directories aside, the two writes are to the script's own place
      apply (hmade l).trans
      left
      rw [htree, get?_put_of_ne _ hl]
      exact get?_write? hwrite hl

/-- The script is beside everything that is stored. -/
theorem writeScript_keepsStored {output script : String}
    (h : (writeScript output script).runIn w = (.ok (), w')) {sub name : String}
    (hs : IsStored output w.tree sub name) : IsStored output w'.tree sub name := by
  obtain ⟨-, -, -, hkeeps⟩ := writeScript_stores h
  -- below the output directory the script's name is not that of the directory
  have hne : ∀ rest, target output ++ Layout.kubernetesDir :: rest
      ≠ target (Layout.script output) := by
    intro rest heq
    rw [target_script, List.append_cancel_left_eq, List.cons.injEq] at heq
    exact absurd heq.1 (by decide)
  refine ⟨hs.usable, hs.sizes, (hkeeps _ (hne [])).get?_eq hs.outer,
    (hkeeps _ (hne [sub])).get?_eq hs.inner, ?_⟩
  rw [(hkeeps _ (hne [sub, name])).fileAt_eq]
  exact hs.file

end

/-! ## §3. What the last part of a build stores. -/

/-- What the script of a build is made from. -/
def scriptValues (r : BuildRequest) (d : Distribution) (cluster : Cluster)
    (selection : Selection) : InstallValues :=
  InstallValues.ofCluster r.definition.cluster cluster selection .default
    ((VirtualAddresses.ofCluster? r.definition.cluster d).map fun _ => Layout.vipManifestInScript)
    (selinuxInstall r d cluster.serverDocument)

/-- The paths of the files that are written after the role documents, but for
the script. -/
def laterPaths (r : BuildRequest) (d : Distribution) (server : RoleDocument)
    (selection : Selection) : List String :=
  (if r.settings.skipArtefacts then [] else (fetches r selection).map (·.path))
    ++ (if server.selinuxEnabled then
          [Layout.repositoryFile r.output
            (SelinuxPolicy.ofDistribution d r.settings.sources).repositoryFile]
        else [])
    ++ (if server.selinuxEnabled && !r.settings.skipArtefacts then [keyPath r] else [])
    ++ (if (VirtualAddresses.ofCluster? r.definition.cluster d).isSome then
          [Layout.vipManifest r.output]
        else [])

/-- What is there after the last part of a build. -/
structure Finished (r : BuildRequest) (d : Distribution) (cluster : Cluster)
    (selection : Selection) (before after : FileTree) : Prop where
  /-- The script can be read. -/
  script : after.read (Layout.script r.output)
    = .ok ((scriptValues r d cluster selection).script (.ofCluster cluster)).toUTF8
  /-- It can be run. -/
  scriptMode : after.fileAt (target (Layout.script r.output))
    = some (((scriptValues r d cluster selection).script (.ofCluster cluster)).toUTF8, true)
  /-- The output directory can be reached. -/
  reachable : after.directory? r.output = some (target r.output)
  /-- What was stored before still is. -/
  kept : ∀ sub name, IsStored r.output before sub name → IsStored r.output after sub name
  /-- Only some files are changed. -/
  elsewhere : ∀ l, l ≠ target (Layout.script r.output) →
    (∀ path ∈ laterPaths r d cluster.serverDocument selection, target path ≠ l) →
    Keeps l before after
  /-- The artefacts are there unless they are skipped. -/
  artefacts : r.settings.skipArtefacts = false →
    (∀ name ∈ selection.installScript :: selection.install,
      IsStored r.output after Layout.installDir name)
    ∧ ∀ name ∈ selection.images, IsStored r.output after Layout.imagesDir name
  /-- The repository file is there if the servers ask for the SELinux policy,
  and the key unless artefacts are skipped. -/
  selinux : cluster.serverDocument.selinuxEnabled = true →
    IsStored r.output after Layout.repositoriesDir (d.name ++ "-selinux" ++ ".repo")
    ∧ (r.settings.skipArtefacts = false →
      IsStored r.output after Layout.keysDir SelinuxPolicy.signingKeyFile)
  /-- The manifest is there if there are virtual addresses. -/
  manifest : (VirtualAddresses.ofCluster? r.definition.cluster d).isSome = true →
    IsStored r.output after Layout.manifestsDir Layout.vipManifestFile

/-- The policy of the version is the policy of its distribution. -/
theorem policy_eq {r : BuildRequest} {distribution : Distribution} {policy : SelinuxPolicy}
    (hdistribution : Distribution.ofVersion r.definition.cluster.version = .ok distribution)
    (h : SelinuxPolicy.ofVersion r.definition.cluster.version r.settings.sources = .ok policy) :
    policy = .ofDistribution distribution r.settings.sources := by
  rw [SelinuxPolicy.ofVersion, hdistribution] at h
  exact (Except.ok.inj h).symm

/-- Before the script, only the files that are written later are changed. -/
theorem keeps_laterPaths {d : Downloader} (hd : d.Exact) {r : BuildRequest}
    {distribution : Distribution} {server : RoleDocument} {selection : Selection}
    {artefacts : Option Layout.ArtefactPaths} {selinux : Option (SelinuxPolicy × SelinuxInstall)}
    {manifest : Option String} {w w₁ w₂ w₃ : World} {l : Location}
    (hdistribution : Distribution.ofVersion r.definition.cluster.version = .ok distribution)
    (hfetch : (fetchSelection d r selection).runIn w = (.ok artefacts, w₁))
    (hselinux : (selinuxFor d r server).runIn w₁ = (.ok selinux, w₂))
    (hmanifest : (writeVipManifest r.output (VirtualAddresses.ofCluster? r.definition.cluster
      distribution)).runIn w₂ = (.ok manifest, w₃))
    (hlater : ∀ path ∈ laterPaths r distribution server selection, target path ≠ l) :
    Keeps l w.tree w₃.tree := by
  simp only [laterPaths, List.mem_append] at hlater
  have hplace := admits_keepsPlace l
  have hplaceFetch := admitsFetch_keepsPlace hd l
  have hkeeps₁ : Keeps l w.tree w₁.tree := by
    refine (hplace.fetchSelection hplaceFetch fun hskip f hf => ?_).of_ok hfetch rfl
    apply hlater
    rw [if_neg (by simp [hskip])]
    exact .inl (.inl (.inl (List.mem_map_of_mem hf)))
  have hkeeps₂ : Keeps l w₁.tree w₂.tree := by
    refine (hplace.selinuxFor hplaceFetch (fun hserver policy hpolicy => ?_)
      fun hserver hskip => ?_).of_ok hselinux rfl
    · apply hlater
      rw [policy_eq hdistribution hpolicy, if_pos hserver]
      exact .inl (.inl (.inr (by simp)))
    · apply hlater
      exact .inl (.inr (by simp [hserver, hskip]))
  have hkeeps₃ : Keeps l w₂.tree w₃.tree := by
    refine (hplace.writeVipManifest fun hv => ?_).of_ok hmanifest rfl
    apply hlater
    exact .inr (by simp [hv])
  exact (hkeeps₁.trans hkeeps₂).trans hkeeps₃

theorem finish_ok {d : Downloader} (hd : d.Exact) {r : BuildRequest} {distribution : Distribution}
    {cluster : Cluster} {documents : List String} {selection : Selection} {report : BuildReport}
    {w w' : World}
    (hdistribution : Distribution.ofVersion r.definition.cluster.version = .ok distribution)
    (hnames : ∀ name ∈ selection.installScript :: selection.install ++ selection.images,
      IsArtefact name)
    (h : (finish d r distribution cluster documents selection).runIn w = (.ok report, w')) :
    Finished r distribution cluster selection w.tree w'.tree := by
  obtain ⟨artefacts, w₁, hfetch, h⟩ := bind_ok h
  obtain ⟨selinux, w₂, hselinux, h⟩ := bind_ok h
  obtain ⟨manifest, w₃, hmanifest, h⟩ := bind_ok h
  obtain ⟨⟨⟩, w₄, hscript, h⟩ := bind_ok h
  obtain ⟨-, rfl⟩ := pure_ok h
  obtain ⟨hinstall, hselinuxStored⟩ := selinuxFor_stores hd hdistribution hselinux
  obtain ⟨hsome, hmanifestStored⟩ := writeVipManifest_stores hmanifest
  have hvalues : manifest.map (fun _ => Layout.vipManifestInScript)
      = (VirtualAddresses.ofCluster? r.definition.cluster distribution).map
        fun _ => Layout.vipManifestInScript := by
    cases manifest <;> cases hv : VirtualAddresses.ofCluster? r.definition.cluster distribution <;>
      simp_all
  rw [hvalues, hinstall] at hscript
  obtain ⟨hread, hmode, hreach, hkeeps⟩ := writeScript_stores hscript
  -- what each of the three parts before the script keeps
  have hadmits := admits_keepsStored r.output
  have hadmitsFetch := admitsFetch_keepsStored hd r.output
  have hkept₃ : ∀ sub name, IsStored r.output w₃.tree sub name →
      IsStored r.output w'.tree sub name := fun _ _ => writeScript_keepsStored hscript
  have hkept₂ : ∀ sub name, IsStored r.output w₂.tree sub name →
      IsStored r.output w₃.tree sub name :=
    (hadmits.writeVipManifest fun _ => inKubernetes_vipManifest r.output).of_ok hmanifest rfl
  have hkept₁ : ∀ sub name, IsStored r.output w₁.tree sub name →
      IsStored r.output w₂.tree sub name :=
    (hadmits.selinuxFor hadmitsFetch
      (fun _ policy hpolicy => inKubernetes_repositoryFile r.output hpolicy)
      fun _ _ => inKubernetes_key r).of_ok hselinux rfl
  have hkept₀ : ∀ sub name, IsStored r.output w.tree sub name →
      IsStored r.output w₁.tree sub name :=
    (hadmits.fetchSelection hadmitsFetch fun _ => inKubernetes_fetches hnames).of_ok hfetch rfl
  have hafter : ∀ sub name, IsStored r.output w₁.tree sub name →
      IsStored r.output w'.tree sub name := fun sub name hs =>
    hkept₃ _ _ (hkept₂ _ _ (hkept₁ _ _ hs))
  refine {
    script := hread
    scriptMode := hmode
    reachable := hreach
    kept := fun sub name hs => hafter _ _ (hkept₀ _ _ hs)
    elsewhere := ?_
    artefacts := fun hskip => ?_
    selinux := fun hserver => ?_
    manifest := fun hv => hkept₃ _ _ (hmanifestStored hv) }
  · intro l hbeside hlater
    exact (keeps_laterPaths hd hdistribution hfetch hselinux hmanifest hlater).trans
      (hkeeps l hbeside)
  · obtain ⟨hinstalled, himages⟩ := fetchSelection_stores hd hnames hfetch hskip
    exact ⟨fun name hname => hafter _ _ (hinstalled name hname),
      fun name hname => hafter _ _ (himages name hname)⟩
  · obtain ⟨hrepository, hkey⟩ := hselinuxStored hserver
    exact ⟨hkept₃ _ _ (hkept₂ _ _ hrepository), fun hskip => hkept₃ _ _ (hkept₂ _ _ (hkey hskip))⟩

/-! ## §4. Whole builds. -/

/-- Whether a need is one for something that is fetched. -/
def isArtefactNeed : Shell.Need → Bool
  | .file path => "kubernetes/install/".toList.isPrefixOf path.toList
  | .someFile dir => dir = "kubernetes/images"

/-- The paths of the files that a build writes. -/
def writtenPaths (r : BuildRequest) (d : Distribution) (cluster : Cluster)
    (selection : Selection) : List String :=
  cluster.documents.map (fun doc => Path.join (Layout.documents r.output) doc.1)
    ++ laterPaths r d cluster.serverDocument selection ++ [Layout.script r.output]

/-- What a build leaves behind that started with the files `before` and
succeeded. -/
structure Complete (r : BuildRequest) (d : Distribution) (cluster : Cluster)
    (selection : Selection) (before after : FileTree) : Prop where
  /-- Each role document holds its text. -/
  documents : ∀ doc ∈ cluster.documents,
    after.read (Path.join (Layout.documents r.output) doc.1) = .ok doc.2.toText.toUTF8
  /-- The script is there. -/
  script : after.read (Layout.script r.output)
    = .ok ((scriptValues r d cluster selection).script (.ofCluster cluster)).toUTF8
  /-- It can be run. -/
  scriptMode : ∃ content, after.fileAt (target (Layout.script r.output)) = some (content, true)
  /-- What the script copies, imports, installs or runs: the role documents that
  it can select, the manifest, the files of the SELinux policy, and the files
  of the distribution. -/
  mentioned : ∀ need, need ∈ Shell.needs
      ((scriptValues r d cluster selection).scriptLines (.ofCluster cluster))
    ↔ need ∈ Shell.buildNeeds d r.definition.arch
        (VirtualAddresses.ofCluster? r.definition.cluster d).isSome
        (if cluster.serverDocument.selinuxEnabled then some (!r.settings.skipArtefacts) else none)
        (.ofCluster cluster)
  /-- The lines of the written text need the same, as long as no host name has a
  line feed in it. -/
  written : (∀ n ∈ r.definition.cluster.nodes, '\n' ∉ n.hostname.toList) →
    Shell.needs (Text.pieces '\n'
        ((scriptValues r d cluster selection).script (.ofCluster cluster)))
      = Shell.needs ((scriptValues r d cluster selection).scriptLines (.ofCluster cluster))
  /-- All of it is there, but for artefacts that were skipped. -/
  needs : ∀ need ∈ Shell.needs
      ((scriptValues r d cluster selection).scriptLines (.ofCluster cluster)),
    (r.settings.skipArtefacts = true → isArtefactNeed need = false) → need.IsMet after r.output
  /-- Unless artefacts were skipped, there are an install script, an archive or
  binary, and images. -/
  artefacts : r.settings.skipArtefacts = false →
    (∀ name ∈ [selection.installScript, selection.binary],
      ∃ content, after.read (Path.join r.output ("kubernetes/install/" ++ name)) = .ok content)
    ∧ ∃ image ∈ selection.images,
      ∃ content, after.read (Path.join r.output ("kubernetes/images/" ++ image)) = .ok content
  /-- No other file is changed. -/
  unchanged : ∀ l, l ∉ (writtenPaths r d cluster selection).map target →
    after.fileAt l = before.fileAt l

/-- The path that the script has for a file. -/
theorem scriptPath_eq (output : String) {sub name : String} (hsub : IsName sub)
    (hname : IsName name) :
    Path.join output ("kubernetes/" ++ sub ++ "/" ++ name)
      = Path.join (Path.join (Layout.kubernetes output) sub) name := by
  -- a joined path is cut where an absolute one begins, and neither part is absolute
  have hrelative : Path.isAbsolute (sub ++ "/" ++ name) = false := by
    obtain ⟨c, cs, hcs⟩ := List.exists_cons_of_ne_nil (l := sub.toList)
      (by simpa using hsub.ne_empty)
    have hsubRelative := hsub.notAbsolute
    rw [Path.isAbsolute, hcs] at hsubRelative
    rw [Path.isAbsolute, String.toList_append, String.toList_append, hcs]
    exact hsubRelative
  have hpath : "kubernetes/" ++ sub ++ "/" ++ name
      = Layout.kubernetesDir ++ "/" ++ (sub ++ "/" ++ name) := by
    rw [← String.append_assoc, ← String.append_assoc]
    rfl
  rw [hpath, Layout.kubernetes, Path.join_join _ hsub hname.notAbsolute,
    Path.join_join _ (by decide) hrelative]

/-- A file that is stored, by the path that the script has for it. -/
theorem read_stored {t : FileTree} {output sub name : String} (hsub : IsName sub)
    (hname : IsName name) (hreach : t.directory? output = some (target output))
    (h : IsStored output t sub name) :
    ∃ content, t.read (Path.join output ("kubernetes/" ++ sub ++ "/" ++ name)) = .ok content := by
  obtain ⟨content, hread, -⟩ := h.read (by decide) hsub hname hreach
  rw [scriptPath_eq output hsub hname]
  exact ⟨content, hread⟩

/-- The nodes as the script of a build lists them. -/
def scriptNodes (r : BuildRequest) (cluster : Cluster) : List NodeRole :=
  if cluster.isMultiNode then r.definition.cluster.nodes.map NodeRole.ofNode else []

/-- What the script of a build is made from. -/
theorem scriptValues_eq (r : BuildRequest) {d : Distribution} (cluster : Cluster)
    {selection : Selection} (hd : selection.distribution = d)
    (hinstall : selection.install = installArtefacts d r.definition.arch) :
    scriptValues r d cluster selection
      = Shell.buildValues d r.definition.arch
          (VirtualAddresses.ofCluster? r.definition.cluster d).isSome
          (if cluster.serverDocument.selinuxEnabled then some (!r.settings.skipArtefacts) else none)
          cluster.initialiser (scriptNodes r cluster) := by
  obtain ⟨distribution, install, images⟩ := selection
  obtain rfl : distribution = d := hd
  obtain rfl : install = installArtefacts distribution r.definition.arch := hinstall
  have hvip : ((VirtualAddresses.ofCluster? r.definition.cluster distribution).map
      fun _ => Layout.vipManifestInScript)
      = if (VirtualAddresses.ofCluster? r.definition.cluster distribution).isSome then
          some Layout.vipManifestInScript else none := by
    cases VirtualAddresses.ofCluster? r.definition.cluster distribution <;> rfl
  have hselinux : selinuxInstall r distribution cluster.serverDocument
      = (if cluster.serverDocument.selinuxEnabled then some (!r.settings.skipArtefacts)
          else none).map fun key =>
        ⟨distribution.name ++ "-selinux",
          Layout.repositoryFileInScript (distribution.name ++ "-selinux" ++ ".repo"),
          if key then some Layout.signingKeyInScript else none⟩ := by
    unfold selinuxInstall
    cases cluster.serverDocument.selinuxEnabled <;> cases r.settings.skipArtefacts <;> rfl
  unfold scriptValues InstallValues.ofCluster
  rw [hvip, hselinux]
  rfl

/-- No node breaks a line of the script if its host name breaks none. -/
theorem scriptNodes_unbroken {r : BuildRequest} {cluster : Cluster}
    (h : ∀ n ∈ r.definition.cluster.nodes, '\n' ∉ n.hostname.toList) :
    ∀ n ∈ scriptNodes r cluster, '\n' ∉ n.hostname.toList ∧ '\n' ∉ n.role.toList := by
  intro role hrole
  unfold scriptNodes at hrole
  split at hrole
  · obtain ⟨n, hn, rfl⟩ := List.mem_map.1 hrole
    have hkind : ∀ kind : NodeKind, '\n' ∉ kind.name.toList := by
      intro kind
      cases kind <;> decide
    exact ⟨h n hn, hkind n.kind⟩
  · exact absurd hrole List.not_mem_nil

/-- The initialising server is one of the nodes, so its name breaks no line
either. -/
theorem initialiser_unbroken {r : BuildRequest} {draw : Draw} {tree : FileTree} {cluster : Cluster}
    (hcluster : clusterFor tree r.definition.cluster r.configDir r.settings.cluster draw
      = .ok cluster)
    (h : ∀ n ∈ r.definition.cluster.nodes, '\n' ∉ n.hostname.toList) :
    '\n' ∉ cluster.initialiser.toList := by
  rcases Cluster.initialiser_derive hcluster with hempty | ⟨n, hn, hname⟩
  · rw [hempty]
    exact List.not_mem_nil
  · rw [← hname]
    exact h n hn

/-- What a derived cluster's script can select is among its documents. -/
theorem documentFile_mem {r : BuildRequest} {draw : Draw} {tree : FileTree} {cluster : Cluster}
    (hcluster : clusterFor tree r.definition.cluster r.configDir r.settings.cluster draw
      = .ok cluster) :
    ∀ file ∈ Shell.documentFiles (.ofCluster cluster), ∃ doc ∈ cluster.documents, doc.1 = file := by
  have hsame := Cluster.derive_documents hcluster
  obtain ⟨initialiser, initialiserDocument, serverDocument, agentDocument, warnings⟩ := cluster
  cases initialiserDocument <;> cases agentDocument <;>
    simp_all [InstallVariant.ofCluster, Cluster.isMultiNode, Cluster.documents,
      Shell.documentFiles]

/-- Each document has a file of its own. -/
theorem documents_nodup (c : Cluster) : (c.documents.map (·.1)).Nodup := by
  obtain ⟨initialiser, initialiserDocument, serverDocument, agentDocument, warnings⟩ := c
  have hall : [Cluster.serverFile, Cluster.initialiserFile, Cluster.agentFile].Nodup := by decide
  cases initialiserDocument <;> cases agentDocument <;>
    simp_all [Cluster.documents]

/-- A build that succeeds took its course to the end. -/
theorem run_ok_course {d : Downloader} {r : BuildRequest} {draw : Draw} {tree : FileTree}
    {report : BuildReport} {w : World}
    (h : (run d r draw).runIn (World.ofTree tree) = (.ok (some report), w)) :
    ∃ distribution cluster selection documents w₀ w₁,
      Distribution.ofVersion r.definition.cluster.version = .ok distribution
      ∧ clusterFor tree r.definition.cluster r.configDir r.settings.cluster draw = .ok cluster
      ∧ select distribution r.definition.arch cluster.serverDocument = .ok selection
      ∧ (writeDocuments (Layout.documents r.output) cluster.documents).runIn (warned tree cluster)
        = (.ok documents, w₀)
      ∧ (finish d r distribution cluster documents selection).runIn w₀ = (.ok report, w₁)
      ∧ w.tree = w₁.tree := by
  by_cases hversion : r.definition.cluster.version = ""
  · rw [run, if_pos hversion] at h
    exact absurd (pure_ok h).1 (by simp)
  · obtain ⟨printed, hrun⟩ := run_versioned d draw hversion (World.ofTree tree)
    have hcourse := runVersioned_course d r draw tree
    rw [h] at hrun
    generalize (runVersioned d r draw).runIn (World.ofTree tree) = out at hcourse hrun
    obtain ⟨hvalue, hworld⟩ := Prod.mk.inj hrun
    cases hcourse with
    | unknown t hdistribution => exact absurd hvalue (by simp [Except.map])
    | underived t hdistribution hcluster => exact absurd hvalue (by simp [Except.map])
    | unwritten hdistribution hcluster hdocuments => exact absurd hvalue (by simp [Except.map])
    | unselected t hdistribution hcluster hdocuments hselection =>
        exact absurd hvalue (by simp [Except.map])
    | @finished distribution cluster documents selection w₀ hdistribution hcluster hdocuments
        hselection =>
        rcases hfinish : (finish d r distribution cluster documents selection).runIn w₀
          with ⟨t | report', w₁⟩
        · rw [hfinish] at hvalue
          exact absurd hvalue (by simp [Except.map])
        · rw [hfinish] at hvalue hworld
          obtain rfl := Option.some.inj (Except.ok.inj hvalue)
          exact ⟨distribution, cluster, selection, documents, w₀, w₁, hdistribution, hcluster,
            hselection, hdocuments, hfinish, by rw [hworld]⟩

/-- A build of an image that has a version reports what it made. -/
theorem run_ok_report {d : Downloader} {r : BuildRequest} {draw : Draw} {w : World}
    {result : Option BuildReport} (hversion : r.definition.cluster.version ≠ "")
    (h : ((run d r draw).runIn w).1 = .ok result) : ∃ report, result = some report := by
  obtain ⟨printed, hrun⟩ := run_versioned d draw hversion w
  rw [hrun] at h
  cases hvalue : ((runVersioned d r draw).runIn w).1 with
  | error t =>
      rw [hvalue] at h
      exact absurd h (by simp [Except.map])
  | ok report =>
      rw [hvalue] at h
      exact ⟨report, (Except.ok.inj h).symm⟩

/-- What is written later is not beside the role documents. -/
theorem laterPaths_sub {r : BuildRequest} {d : Distribution} {server : RoleDocument}
    {selection : Selection}
    (hnames : ∀ name ∈ selection.installScript :: selection.install ++ selection.images,
      IsArtefact name) :
    ∀ path ∈ laterPaths r d server selection, ∃ sub name, IsName sub ∧ IsName name
      ∧ sub ≠ Layout.configDir
      ∧ path = Path.join (Path.join (Layout.kubernetes r.output) sub) name := by
  intro path hpath
  simp only [laterPaths, List.mem_append] at hpath
  rcases hpath with ((hpath | hpath) | hpath) | hpath
  · split at hpath
    · exact absurd hpath (by simp)
    · obtain ⟨f, hf, rfl⟩ := List.mem_map.1 hpath
      simp only [fetches, fetchPlan, List.cons_append, List.mem_cons, List.mem_append,
        List.mem_map] at hf hnames
      rcases hf with rfl | ⟨name, hname, rfl⟩ | ⟨name, hname, rfl⟩
      · exact ⟨Layout.installDir, _, by decide, (hnames _ (.inl rfl)).isName, by decide, rfl⟩
      · exact ⟨Layout.installDir, _, by decide, (hnames _ (.inr (.inl hname))).isName, by decide,
          rfl⟩
      · exact ⟨Layout.imagesDir, _, by decide, (hnames _ (.inr (.inr hname))).isName, by decide,
          rfl⟩
  · split at hpath
    · obtain rfl := List.mem_singleton.1 hpath
      exact ⟨Layout.repositoriesDir, _, by decide, (isArtefact_repositoryFile d).isName, by decide,
        rfl⟩
    · exact absurd hpath (by simp)
  · split at hpath
    · obtain rfl := List.mem_singleton.1 hpath
      exact ⟨Layout.keysDir, _, by decide, by decide, by decide, rfl⟩
    · exact absurd hpath (by simp)
  · split at hpath
    · obtain rfl := List.mem_singleton.1 hpath
      exact ⟨Layout.manifestsDir, _, by decide, by decide, by decide, rfl⟩
    · exact absurd hpath (by simp)

section Needs

variable {r : BuildRequest} {d : Distribution} {cluster : Cluster} {selection : Selection}
variable {before after : FileTree}

/-- A stored file is there for the script. -/
theorem Finished.isMet (h : Finished r d cluster selection before after) {sub name path : String}
    (hsub : IsName sub) (hname : IsName name) (hstored : IsStored r.output after sub name)
    (hpath : "kubernetes/" ++ sub ++ "/" ++ name = path) :
    (Shell.Need.file path).IsMet after r.output := by
  rw [← hpath]
  exact read_stored hsub hname h.reachable hstored

/-- Artefacts that must be there are not skipped. -/
theorem not_skipped {need : Shell.Need} (hneed : isArtefactNeed need = true)
    (h : r.settings.skipArtefacts = true → isArtefactNeed need = false) :
    r.settings.skipArtefacts = false := by
  cases hskipped : r.settings.skipArtefacts with
  | false => rfl
  | true =>
      rw [h hskipped] at hneed
      cases hneed

theorem vipFiles_met (h : Finished r d cluster selection before after) :
    ∀ file ∈ Shell.vipFiles (VirtualAddresses.ofCluster? r.definition.cluster d).isSome,
      (Shell.Need.file file).IsMet after r.output := by
  intro file hfile
  unfold Shell.vipFiles at hfile
  split at hfile
  next hvip =>
    obtain rfl := List.mem_singleton.1 hfile
    exact h.isMet (by decide) (by decide) (h.manifest hvip) (by decide)
  next => exact absurd hfile (by simp)

theorem selinuxFiles_met (h : Finished r d cluster selection before after) :
    ∀ file ∈ Shell.selinuxFiles d
        (if cluster.serverDocument.selinuxEnabled then some (!r.settings.skipArtefacts) else none),
      (Shell.Need.file file).IsMet after r.output := by
  intro file hfile
  by_cases hserver : cluster.serverDocument.selinuxEnabled = true
  · obtain ⟨hrepository, hkey⟩ := h.selinux hserver
    rw [if_pos hserver] at hfile
    rcases List.mem_append.1 hfile with hfile | hfile
    -- the key, which is only named when artefacts are fetched, and the repository file
    · split at hfile
      next hskipped =>
        obtain rfl : file = "kubernetes/gpg-keys/rancher-public.key" := by simpa using hfile
        exact h.isMet (by decide) (by decide) (hkey (by simpa using hskipped)) (by decide)
      next => exact absurd hfile (by simp)
    · obtain rfl := List.mem_singleton.1 hfile
      refine h.isMet (by decide) (isArtefact_repositoryFile d).isName hrepository ?_
      cases d <;> decide
  · rw [if_neg hserver] at hfile
    exact absurd hfile (by simp [Shell.selinuxFiles])

theorem installFiles_met (h : Finished r d cluster selection before after)
    (hd : selection.distribution = d)
    (hinstall : selection.install = installArtefacts d r.definition.arch)
    (hnames : ∀ name ∈ selection.installScript :: selection.install ++ selection.images,
      IsArtefact name)
    (hfetched : r.settings.skipArtefacts = false) :
    ∀ file ∈ Shell.installFiles d r.definition.arch,
      (Shell.Need.file file).IsMet after r.output := by
  intro file hfile
  obtain ⟨name, hname, rfl⟩ : ∃ name ∈ selection.installScript :: selection.install,
      "kubernetes/install/" ++ name = file := by
    rcases List.mem_append.1 hfile with hfile | hfile
    · split at hfile
      · obtain rfl := List.mem_singleton.1 hfile
        exact ⟨installBinary d r.definition.arch, by simp [hinstall, installArtefacts], rfl⟩
      · exact absurd hfile (by simp)
    · obtain rfl := List.mem_singleton.1 hfile
      exact ⟨d.installScriptName, by simp [Selection.installScript, hd], rfl⟩
  exact h.isMet (by decide) (hnames name (List.mem_append_left _ hname)).isName
    ((h.artefacts hfetched).1 name hname) rfl

/-- Some bundle of images is there. -/
theorem images_met (h : Finished r d cluster selection before after)
    (hnames : ∀ name ∈ selection.installScript :: selection.install ++ selection.images,
      IsArtefact name)
    (himages : selection.images ≠ []) (hfetched : r.settings.skipArtefacts = false) :
    (Shell.Need.someFile "kubernetes/images").IsMet after r.output := by
  obtain ⟨image, images, himage⟩ := List.exists_cons_of_ne_nil himages
  have hmem : image ∈ selection.images := by simp [himage]
  have hartefact := hnames image (List.mem_append_right _ hmem)
  obtain ⟨content, hread, -⟩ := ((h.artefacts hfetched).2 image hmem).read (by decide)
    (by decide) hartefact.isName h.reachable
  have hdir : Path.join r.output "kubernetes/images"
      = Path.join (Path.join r.output Layout.kubernetesDir) Layout.imagesDir :=
    (Path.join_join r.output (by decide : IsName Layout.kubernetesDir)
      (by decide : Path.isAbsolute Layout.imagesDir = false)).symm
  refine ⟨image, content, hartefact.isName, hartefact.visible, ?_⟩
  rw [hdir]
  exact hread

/-- The install script, the archive or binary, and images are there. -/
theorem artefacts_met (h : Finished r d cluster selection before after)
    (hinstall : selection.install = installArtefacts d r.definition.arch)
    (hnames : ∀ name ∈ selection.installScript :: selection.install ++ selection.images,
      IsArtefact name)
    (himages : selection.images ≠ []) (hfetched : r.settings.skipArtefacts = false) :
    (∀ name ∈ [selection.installScript, selection.binary],
      ∃ content, after.read (Path.join r.output ("kubernetes/install/" ++ name)) = .ok content)
    ∧ ∃ image ∈ selection.images,
      ∃ content, after.read (Path.join r.output ("kubernetes/images/" ++ image)) = .ok content := by
  obtain ⟨hinstalled, hstored⟩ := h.artefacts hfetched
  constructor
  · intro name hname
    have hmem : name ∈ selection.installScript :: selection.install := by
      have hbinary : selection.binary = installBinary d r.definition.arch := by
        rw [Selection.binary, hinstall]
        rfl
      rw [hbinary] at hname
      rw [hinstall]
      simp only [List.mem_cons, List.not_mem_nil, or_false] at hname
      rcases hname with rfl | rfl <;> simp [installArtefacts]
    exact h.isMet (by decide) (hnames name (List.mem_append_left _ hmem)).isName
      (hinstalled name hmem) rfl
  · obtain ⟨image, images, himage⟩ := List.exists_cons_of_ne_nil himages
    have hmem : image ∈ selection.images := by simp [himage]
    exact ⟨image, hmem, h.isMet (by decide) (hnames image (List.mem_append_right _ hmem)).isName
      (hstored image hmem) rfl⟩

/-- A role document still has its text at the end. -/
theorem document_kept (h : Finished r d cluster selection before after)
    (hnames : ∀ name ∈ selection.installScript :: selection.install ++ selection.images,
      IsArtefact name)
    {name : String} {content : ByteArray} {executable : Bool} (hname : IsName name)
    (hstored : IsStored r.output before Layout.configDir name)
    (hfile : before.fileAt (target (Path.join (Layout.documents r.output) name))
      = some (content, executable)) :
    after.read (Path.join (Layout.documents r.output) name) = .ok content := by
  -- nothing that is written later is in the directory of the documents
  have hplace : target (Path.join (Layout.documents r.output) name)
      = target r.output ++ [Layout.kubernetesDir, Layout.configDir, name] :=
    target_inKubernetes (by decide) hname
  have hsame : Keeps (target (Path.join (Layout.documents r.output) name)) before after := by
    apply h.elsewhere
    · rw [hplace, target_script]
      simp
    · intro path hpath heq
      obtain ⟨sub, later, hsub, hlater, hne, rfl⟩ := laterPaths_sub hnames path hpath
      rw [target_inKubernetes hsub hlater, hplace, List.append_cancel_left_eq] at heq
      simp only [List.cons.injEq] at heq
      exact hne heq.2.1
  obtain ⟨content', hread, executable', hcontent⟩ :=
    (h.kept _ _ hstored).read (by decide) (by decide) hname h.reachable
  rw [← hplace, hsame.fileAt_eq, hfile] at hcontent
  obtain ⟨rfl, -⟩ := Prod.mk.inj (Option.some.inj hcontent)
  exact hread

/-- What the script of a build needs is stored. -/
theorem needs_met (hfinished : Finished r d cluster selection before after)
    (hdocuments : ∀ file ∈ Shell.documentFiles (.ofCluster cluster),
      IsName file ∧ IsStored r.output after Layout.configDir file)
    (hd : selection.distribution = d)
    (hinstall : selection.install = installArtefacts d r.definition.arch)
    (hnames : ∀ name ∈ selection.installScript :: selection.install ++ selection.images,
      IsArtefact name)
    (himages : selection.images ≠ []) :
    ∀ need ∈ Shell.buildNeeds d r.definition.arch
        (VirtualAddresses.ofCluster? r.definition.cluster d).isSome
        (if cluster.serverDocument.selinuxEnabled then some (!r.settings.skipArtefacts) else none)
        (.ofCluster cluster),
      (r.settings.skipArtefacts = true → isArtefactNeed need = false) →
      need.IsMet after r.output := by
  intro need hneed hskip
  simp only [Shell.buildNeeds, List.mem_append, List.mem_map] at hneed
  rcases hneed with (⟨file, hfile, rfl⟩ | ⟨file, hfile, rfl⟩) | hneed
  · obtain ⟨hname, hstored⟩ := hdocuments file hfile
    exact hfinished.isMet (by decide) hname hstored rfl
  · rcases hfile with (hfile | hfile) | hfile
    · exact vipFiles_met hfinished file hfile
    · exact selinuxFiles_met hfinished file hfile
    · have hartefact : isArtefactNeed (.file file) = true := by
        rcases List.mem_append.1 hfile with hfile | hfile
        · split at hfile
          · rw [List.mem_singleton.1 hfile]
            simp [isArtefactNeed]
          · cases hfile
        · rw [List.mem_singleton.1 hfile]
          simp [isArtefactNeed]
      exact installFiles_met hfinished hd hinstall hnames (not_skipped hartefact hskip) file hfile
  · obtain rfl := List.mem_singleton.1 hneed
    exact images_met hfinished hnames himages (not_skipped (by simp [isArtefactNeed]) hskip)

end Needs

/-- **A build that succeeds is complete.**  The downloader may be any that is
exact. -/
theorem run_complete {d : Downloader} (hd : d.Exact) {r : BuildRequest} {draw : Draw}
    {tree : FileTree} {report : BuildReport} {w : World}
    (h : (run d r draw).runIn (World.ofTree tree) = (.ok (some report), w)) :
    ∃ distribution cluster selection,
      Distribution.ofVersion? r.definition.cluster.version = some distribution
      ∧ clusterFor tree r.definition.cluster r.configDir r.settings.cluster draw = .ok cluster
      ∧ select distribution r.definition.arch cluster.serverDocument = .ok selection
      ∧ Complete r distribution cluster selection tree w.tree := by
  obtain ⟨distribution, cluster, selection, documents, w₀, w₁, hdistribution, hcluster, hselection,
    hdocuments, hfinish, htree⟩ := run_ok_course h
  refine ⟨distribution, cluster, selection, ofVersion?_eq hdistribution, hcluster, hselection, ?_⟩
  rw [htree]
  have hnames := select_names hselection
  obtain ⟨hd', hinstall, himages, -⟩ := select_eq hselection
  have hfinished := finish_ok hd hdistribution hnames hfinish
  have hstores := writeDocuments_stores isArtefact_document (documents_nodup cluster) hdocuments
  have hvalues := scriptValues_eq r cluster hd' hinstall
  have hmentioned : ∀ need, need ∈ Shell.needs
        ((scriptValues r distribution cluster selection).scriptLines (.ofCluster cluster))
      ↔ need ∈ Shell.buildNeeds distribution r.definition.arch
          (VirtualAddresses.ofCluster? r.definition.cluster distribution).isSome
          (if cluster.serverDocument.selinuxEnabled then some (!r.settings.skipArtefacts)
            else none) (.ofCluster cluster) := by
    intro need
    rw [hvalues]
    exact Shell.mem_needs_scriptLines _ _ _ _ _ _ _ need
  refine {
    documents := fun doc hdoc => ?_
    script := hfinished.script
    scriptMode := ⟨_, hfinished.scriptMode⟩
    mentioned := hmentioned
    written := fun hhosts => ?_
    needs := fun need hneed hskip => ?_
    artefacts := artefacts_met hfinished hinstall hnames himages
    unchanged := fun l hl => ?_ }
  · obtain ⟨hstored, executable, hfile⟩ := hstores doc hdoc
    exact document_kept hfinished hnames (isArtefact_document doc hdoc).isName hstored hfile
  · rw [hvalues]
    exact Shell.needs_script _ _ _ _ (initialiser_unbroken hcluster hhosts)
      (scriptNodes_unbroken hhosts) _
  · apply needs_met hfinished _ hd' hinstall hnames himages need ((hmentioned need).1 hneed) hskip
    intro file hfile
    obtain ⟨doc, hdoc, rfl⟩ := documentFile_mem hcluster file hfile
    exact ⟨(isArtefact_document doc hdoc).isName, hfinished.kept _ _ (hstores doc hdoc).1⟩
  · simp only [writtenPaths, List.map_append, List.mem_append, List.mem_map, not_or, not_exists,
      not_and] at hl
    have hbefore : Keeps l (warned tree cluster).tree w₀.tree := by
      refine ((admits_keepsPlace l).writeDocuments _ cluster.documents fun doc hdoc => ?_).of_ok
        hdocuments rfl
      exact fun heq => hl.1.1 _ ⟨doc, hdoc, rfl⟩ heq
    -- a location that is none of those written is kept by both halves of the build
    have hafter := hfinished.elsewhere l (fun heq => hl.2 _ (by simp) heq.symm) hl.1.2
    exact (hbefore.trans hafter).fileAt_eq

/-- A rehearsal for a single server. -/
theorem run_complete_rehearsal :
    let d := Downloader.rehearsal none
    let r : BuildRequest :=
      ⟨⟨.x86_64, "v1.30.3+k3s1", .empty, [⟨"a", .server, false⟩]⟩, "config", "out", .default⟩
    let draw : Draw := Vector.replicate 32 7
    d.Exact ∧ ∃ report w, (run d r draw).runIn (World.ofTree .empty) = (.ok (some report), w)
      ∧ ∃ distribution cluster selection,
        Complete r distribution cluster selection .empty w.tree := by
  intro d r draw
  have hd : d.Exact := Downloader.rehearsal_exact none
  -- only that the rehearsal succeeds is computed; the rest is the theorem
  have hok : ((run d r draw).runIn (World.ofTree .empty)).1.isOk = true := by decide +kernel
  obtain ⟨result, hresult⟩ := exists_ok_of_isOk hok
  obtain ⟨report, rfl⟩ := run_ok_report (by decide) hresult
  have hrun : (run d r draw).runIn (World.ofTree .empty) = (.ok (some report), _) :=
    Prod.ext hresult rfl
  obtain ⟨distribution, cluster, selection, -, -, -, hcomplete⟩ := run_complete hd hrun
  exact ⟨hd, report, _, hrun, distribution, cluster, selection, hcomplete⟩

end ClusterBoot.Build
