/-
  ClusterBoot.Proofs.BuildSteps
  ────────────────────────────────
  **A BUILD, STEP BY STEP.**

  A build that succeeds reports what its steps did (`finish_reports`): which
  documents it wrote, which files it fetched, one after the other (`Fetched`),
  and which policy it prepared.  What it prints is never taken back
  (`admits_prints`).
-/
import ClusterBoot.Proofs.BuildOutput

namespace ClusterBoot.Build

open ClusterBoot.Action FileTree
open ClusterBoot.Path (IsName target)

/-! ## §1. Role documents. -/

/-- Writing a text prints nothing. -/
theorem writeText_printed {path text : String} {x : Except Trouble Unit} {w w' : World}
    (h : (writeText path text).runIn w = (x, w')) : w'.printed = w.printed := by
  obtain ⟨made, -, ⟨e, herror⟩ | ⟨tree, -, hok⟩⟩ := writeText_spec path text w
  · rw [herror] at h
    rw [← (Prod.mk.inj h).2]
  · rw [hok] at h
    rw [← (Prod.mk.inj h).2]

/-- The paths of role documents that were written, and what was printed about
them. -/
theorem writeDocuments_reports {dir : String} {docs : List (String × RoleDocument)}
    {paths : List String} {w w' : World}
    (h : (writeDocuments dir docs).runIn w = (.ok paths, w')) :
    paths = docs.map (fun doc => Path.join dir doc.1)
      ∧ w'.printed = w.printed ++ docs.map fun doc => "✓ Wrote " ++ Path.join dir doc.1 := by
  induction docs generalizing w paths with
  | nil =>
      obtain ⟨rfl, rfl⟩ := pure_ok h
      exact ⟨rfl, by simp⟩
  | cons doc docs ih =>
      obtain ⟨⟨⟩, w₁, hwrite, h⟩ := bind_ok h
      obtain ⟨⟨⟩, w₂, hprint, h⟩ := bind_ok h
      obtain ⟨paths', w₃, hdocs, h⟩ := bind_ok h
      obtain ⟨rfl, rfl⟩ := pure_ok h
      obtain ⟨rfl, hprinted⟩ := ih hdocs
      obtain rfl := (Prod.mk.inj hprint).2
      refine ⟨rfl, ?_⟩
      rw [hprinted]
      show (w₁.printed ++ [_]) ++ _ = _
      rw [writeText_printed hwrite, List.append_assoc]
      rfl

/-! ## §2. Files that are fetched. -/

/-- Files were fetched one after the other, and all of them arrived. -/
inductive Fetched (d : Downloader) : List Fetch → World → World → Prop where
  /-- Nothing was fetched. -/
  | nothing (w : World) : Fetched d [] w w
  /-- A file arrived, and then the others. -/
  | next {f : Fetch} {fs : List Fetch} {w w' : World} {tree : FileTree}
      (harrived : d.fetch w.requests f.url f.path w.tree = (.ok (), tree))
      (hrest : Fetched d fs
        { w with
          tree := tree
          requests := w.requests ++ [f.url]
          arrived := w.arrived ++ [true] } w') :
      Fetched d (f :: fs) w w'

/-- The requests for files that were fetched are for them and for nothing
else. -/
theorem Fetched.requests_eq {d : Downloader} {fs : List Fetch} {w w' : World}
    (h : Fetched d fs w w') : w'.requests = w.requests ++ fs.map (·.url) := by
  induction h with
  | nothing w => rw [List.map_nil, List.append_nil]
  | next harrived hrest ih =>
      rw [ih, List.map_cons, List.append_assoc]
      rfl

/-- Fetching files succeeds only if they arrive one after the other. -/
theorem fetchAll_fetched {d : Downloader} {fs : List Fetch} {w w' : World}
    (h : (fetchAll d fs).runIn w = (.ok (), w')) : Fetched d fs w w' := by
  induction fs generalizing w with
  | nil =>
      obtain ⟨-, rfl⟩ := pure_ok h
      exact .nothing w'
  | cons f fs ih =>
      obtain ⟨⟨⟩, w₁, hfetch, h⟩ := bind_ok h
      have hrun : (d.run f.url f.path).runIn w = (.ok (), w₁) := mapError_ok hfetch
      rcases hd : d.fetch w.requests f.url f.path w.tree with ⟨e | ⟨⟩, tree⟩
      · rw [Downloader.run, runIn_ofFunction, hd] at hrun
        exact absurd (Prod.mk.inj hrun).1 (by simp)
      · rw [Downloader.run, runIn_ofFunction, hd] at hrun
        obtain rfl := (Prod.mk.inj hrun).2
        exact .next hd (ih h)

/-- Unless artefacts are skipped, those that are selected are fetched. -/
theorem fetchSelection_fetched {d : Downloader} {r : BuildRequest} {selection : Selection}
    {artefacts : Option Layout.ArtefactPaths} {w w' : World}
    (h : (fetchSelection d r selection).runIn w = (.ok artefacts, w'))
    (hskip : r.settings.skipArtefacts = false) :
    ∃ start stop, Fetched d (fetches r selection) start stop ∧ start.requests = w.requests := by
  unfold fetchSelection at h
  rw [if_neg (by simp [hskip])] at h
  obtain ⟨⟨⟩, w₁, hprint, h⟩ := bind_ok h
  obtain ⟨paths, w₂, hfetch, -⟩ := bind_ok h
  obtain ⟨⟨⟩, w₃, hinstall, hfetch⟩ := bind_ok (mapError_ok hfetch)
  obtain ⟨⟨⟩, w₄, himages, hfetch⟩ := bind_ok hfetch
  obtain ⟨⟨⟩, w₅, hall, -⟩ := bind_ok hfetch
  -- before the fetching a line is printed and two directories are made
  have hquiet := admits_quiet fun _ => True
  refine ⟨w₄, w₅, fetchAll_fetched hall, ?_⟩
  rw [((hquiet.makeDirs _ _).of_ok himages).1, ((hquiet.makeDirs _ _).of_ok hinstall).1,
    ((hquiet.print _).of_ok hprint).1]

/-! ## §3. The SELinux policy. -/

/-- The policy of a build, if its servers ask for one. -/
def policyFor (r : BuildRequest) (d : Distribution) (server : RoleDocument) :
    Option SelinuxPolicy :=
  if server.selinuxEnabled then some (.ofDistribution d r.settings.sources) else none

/-- The policy that is prepared is that of the distribution. -/
theorem selinuxFor_policy {d : Downloader} {r : BuildRequest} {distribution : Distribution}
    {server : RoleDocument} {selinux : Option (SelinuxPolicy × SelinuxInstall)} {w w' : World}
    (hdistribution : Distribution.ofVersion r.definition.cluster.version = .ok distribution)
    (h : (selinuxFor d r server).runIn w = (.ok selinux, w')) :
    selinux.map (·.1) = policyFor r distribution server := by
  unfold selinuxFor at h
  unfold policyFor
  by_cases hserver : server.selinuxEnabled = true
  · rw [if_pos hserver] at h ⊢
    rw [map_eq_bind] at h
    obtain ⟨⟨policy, install⟩, w₁, h, hsome⟩ := bind_ok h
    obtain ⟨rfl, rfl⟩ := pure_ok hsome
    obtain ⟨rfl, -⟩ := prepareSelinux_ok hdistribution h
    rfl
  · rw [if_neg hserver] at h ⊢
    obtain ⟨rfl, -⟩ := pure_ok h
    rfl

/-! ## §4. The last part. -/

section
variable {d : Downloader} {r : BuildRequest} {distribution : Distribution} {cluster : Cluster}
  {selection : Selection}

/-- A property holds of the last part of a build if it holds of writing its
later files and the script. -/
theorem Carries.finish {P : (ε α : Type) → Action ε α → Prop} {dirs paths : String → Prop}
    (h : Carries P dirs paths) (hd : CarriesFetch d P paths)
    (hdistribution : Distribution.ofVersion r.definition.cluster.version = .ok distribution)
    (hdirs : ∀ sub ∈ [Layout.installDir, Layout.imagesDir, Layout.keysDir],
      dirs (Path.join (Layout.kubernetes r.output) sub))
    (hlater : ∀ path ∈ laterPaths r distribution cluster.serverDocument selection, paths path)
    (hscript : paths (Layout.script r.output))
    (hmode : ∀ refused : Trouble,
      P _ _ (.change refused fun t => t.makeExecutable? (Layout.script r.output)))
    (documents : List String) :
    P _ _ (finish d r distribution cluster documents selection) := by
  simp only [laterPaths, List.mem_append] at hlater
  unfold Build.finish
  apply h.bind
  · refine h.fetchSelection hd (hdirs _ (by simp)) (hdirs _ (by simp)) fun hskip f hf =>
      hlater _ (.inl (.inl (.inl ?_)))
    rw [if_neg (by simp [hskip])]
    exact List.mem_map_of_mem hf
  intro artefacts
  apply h.bind
  · refine h.selinuxFor hd (hdirs _ (by simp)) (fun hserver policy hpolicy => ?_)
      fun hserver hskip => ?_
    · rw [policy_eq hdistribution hpolicy]
      exact hlater _ (.inl (.inl (.inr (by simp [hserver]))))
    · exact hlater _ (.inl (.inr (by simp [hserver, hskip])))
  intro selinux
  apply h.bind
  · exact h.writeVipManifest fun hv => hlater _ (.inr (by simp [hv]))
  intro manifest
  apply h.bind
  · exact h.bind (h.writeText _ hscript) fun _ => hmode _
  · exact fun _ => h.pure _

end

/-- What was printed stays printed. -/
def Prints : Bool → World → World → Prop :=
  fun _ w w' => w.printed <+: w'.printed

theorem admits_prints (paths : String → Prop) : Admits Prints paths where
  composable := ⟨fun _ _ => List.prefix_refl _, fun h h' => h.trans h'⟩
  print line w := List.prefix_append _ [line]
  makeDirs _ _ _ := List.prefix_refl _
  write refused path content _ w := by
    rw [runIn_change]
    split <;> exact List.prefix_refl _

theorem admitsFetch_prints (d : Downloader) (paths : String → Prop) :
    AdmitsFetch d Prints paths :=
  fun _ _ _ _ => List.prefix_refl _

/-- The last part of a build takes nothing back that was printed. -/
theorem finish_prints {d : Downloader} {r : BuildRequest} {distribution : Distribution}
    {cluster : Cluster} {documents : List String} {selection : Selection}
    (hdistribution : Distribution.ofVersion r.definition.cluster.version = .ok distribution) :
    Satisfies Prints (finish d r distribution cluster documents selection) := by
  refine (admits_prints fun _ => True).carries.finish (admitsFetch_prints d _) hdistribution
    (fun _ _ => trivial) (fun _ _ => trivial) trivial (fun refused w => ?_) documents
  rw [runIn_change]
  split <;> exact List.prefix_refl _

/-- What the last part of a build reports. -/
theorem finish_reports {d : Downloader} {r : BuildRequest} {distribution : Distribution}
    {cluster : Cluster} {documents : List String} {selection : Selection} {report : BuildReport}
    {w w' : World}
    (hdistribution : Distribution.ofVersion r.definition.cluster.version = .ok distribution)
    (h : (finish d r distribution cluster documents selection).runIn w = (.ok report, w')) :
    report.documents = documents
      ∧ report.selinux = policyFor r distribution cluster.serverDocument
      ∧ (r.settings.skipArtefacts = false → ∃ start stop,
        Fetched d (fetches r selection) start stop ∧ start.requests = w.requests) := by
  obtain ⟨artefacts, w₁, hfetch, h⟩ := bind_ok h
  obtain ⟨selinux, w₂, hselinux, h⟩ := bind_ok h
  obtain ⟨manifest, w₃, -, h⟩ := bind_ok h
  obtain ⟨⟨⟩, w₄, -, h⟩ := bind_ok h
  obtain ⟨rfl, -⟩ := pure_ok h
  exact ⟨rfl, selinuxFor_policy hdistribution hselinux, fetchSelection_fetched hfetch⟩

/-! ## §5. What a confined downloader leaves alone. -/

/-- What is at a location stays. -/
def Leaves (l : Location) : Bool → World → World → Prop :=
  fun _ w w' => Keeps l w.tree w'.tree

theorem admits_leaves (l : Location) :
    Admits (Leaves l) fun path => ¬ target path <+: l ∧ ¬ target (Path.partOf path) <+: l where
  composable := ⟨fun _ _ => .refl _ _, fun h h' => h.trans h'⟩
  print _ _ := .refl _ _
  makeDirs _ path w := keeps_makeDirs l w.tree path
  write refused path content hpath w := by
    rw [runIn_change]
    split
    next tree hwrite =>
      exact .inl (get?_write? hwrite fun heq => hpath.1 (heq ▸ List.prefix_refl _))
    next => exact .refl _ _

theorem admitsFetch_leaves {d : Downloader} (hd : d.Confined) (l : Location) :
    AdmitsFetch d (Leaves l)
      fun path => ¬ target path <+: l ∧ ¬ target (Path.partOf path) <+: l :=
  fun url path hpath w => .inl (hd w.requests url path w.tree l hpath.1 hpath.2)

/-- The last part of a build leaves the role documents alone. -/
theorem finish_leaves {d : Downloader} (hd : d.Confined) {r : BuildRequest}
    {distribution : Distribution} {cluster : Cluster} {documents : List String}
    {selection : Selection} {name : String}
    (hdistribution : Distribution.ofVersion r.definition.cluster.version = .ok distribution)
    (hnames : ∀ name ∈ selection.installScript :: selection.install ++ selection.images,
      IsArtefact name) (hname : IsName name) :
    Satisfies (Leaves (target (Path.join (Layout.documents r.output) name)))
      (finish d r distribution cluster documents selection) := by
  have hplace : target (Path.join (Layout.documents r.output) name)
      = target r.output ++ [Layout.kubernetesDir, Layout.configDir, name] :=
    target_inKubernetes (by decide) hname
  have hscript : ¬ target (Layout.script r.output)
      <+: target r.output ++ [Layout.kubernetesDir, Layout.configDir, name] := by
    rw [target_script, List.prefix_append_right_inj]
    exact fun h => absurd (List.cons_prefix_cons.1 h).1 (by decide)
  rw [hplace]
  refine (admits_leaves _).carries.finish (admitsFetch_leaves hd _) hdistribution
    (fun _ _ => trivial) ?_ ⟨hscript, ?_⟩ ?_ documents
  · intro path hpath
    obtain ⟨sub, later, hsub, hlater, hne, rfl⟩ := laterPaths_sub hnames path hpath
    have hother : ∀ file, ¬ target r.output ++ [Layout.kubernetesDir, sub, file]
        <+: target r.output ++ [Layout.kubernetesDir, Layout.configDir, name] := by
      intro file h
      rw [List.prefix_append_right_inj] at h
      exact hne (List.cons_prefix_cons.1 (List.cons_prefix_cons.1 h).2).1
    refine ⟨?_, ?_⟩
    · rw [target_inKubernetes hsub hlater]
      exact hother later
    · rw [Path.target_partOf_join hlater (Path.isName_part hlater), Path.target_join hsub,
        Layout.kubernetes, Path.target_join (show IsName Layout.kubernetesDir by decide)]
      simpa using hother (later ++ ".part")
  · rw [Layout.script, Path.target_partOf_join (by decide) (by decide),
      List.prefix_append_right_inj]
    exact fun h => absurd (List.cons_prefix_cons.1 h).1 (by decide)
  · intro refused w
    rw [runIn_change]
    split
    next tree hmode =>
      obtain ⟨-, content, executable, -, rfl⟩ := makeExecutable?_eq_some hmode
      exact keeps_put _ fun heq => hscript (heq ▸ List.prefix_refl _)
    next => exact .refl _ _

end ClusterBoot.Build
