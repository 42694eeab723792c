/-
  ClusterBoot.Proofs.BuildEffects
  ────────────────────────────────
  **WHAT A BUILD HAS DONE WHEN IT ENDS, WHEREVER IT ENDS.**

  A build can end at many points.  For each of them `run_disciplined` says
  what may have happened before: which files are as they were, and which
  URLs were requested.  It holds for every confined downloader.

  Everything but the script lies two directories below the output directory
  (`InKubernetes`), so nothing that happens before the script is written
  touches it (`finish_keeps_script`), and a script that was written can be
  made executable.
-/
import ClusterBoot.Proofs.BuildParts
import ClusterBoot.Proofs.Downloads
import ClusterBoot.Proofs.Selections

namespace ClusterBoot.Build

open ClusterBoot.Action
open ClusterBoot.Path (IsName target)

/-! ## §1. Everything but the script. -/

/-- A path two directories below the output directory, where a file can be
received. -/
def InKubernetes (output path : String) : Prop :=
  ∃ sub name, IsName sub ∧ IsArtefact name
    ∧ path = Path.join (Path.join (Layout.kubernetes output) sub) name

/-- Where a path two directories below the output directory leads. -/
theorem target_inKubernetes {output sub name : String} (hsub : IsName sub) (hname : IsName name) :
    target (Path.join (Path.join (Layout.kubernetes output) sub) name)
      = target output ++ [Layout.kubernetesDir, sub, name] := by
  rw [Path.target_join hname, Path.target_join hsub, Layout.kubernetes,
      Path.target_join (show IsName Layout.kubernetesDir by decide)]
  simp

theorem target_script (output : String) :
    target (Layout.script output) = target output ++ [Layout.scriptFile] :=
  Path.target_join (by decide)

/-- Neither a file there nor the one that it is received in is above the
script. -/
theorem InKubernetes.not_prefix_script {output path : String} (h : InKubernetes output path) :
    ¬ target path <+: target (Layout.script output)
      ∧ ¬ target (Path.partOf path) <+: target (Layout.script output) := by
  obtain ⟨sub, name, hsub, hname, rfl⟩ := h
  rw [target_inKubernetes hsub hname.isName,
      Path.target_partOf_join hname.isName hname.isName_part, Path.target_join hsub,
      Layout.kubernetes, Path.target_join (show IsName Layout.kubernetesDir by decide),
      target_script]
  constructor
  · intro habove
    -- three names below the output directory are not above one name below it
    have hlength := habove.length_le
    simp at hlength
  · intro habove
    have hlength := habove.length_le
    simp at hlength

/-- The names of the role documents. -/
def roleFiles : List String := [Cluster.serverFile, Cluster.initialiserFile, Cluster.agentFile]

theorem document_file {c : Cluster} : ∀ doc ∈ c.documents, doc.1 ∈ roleFiles := by
  intro doc hdoc
  obtain ⟨initialiser, initialiserDocument, serverDocument, agentDocument, warnings⟩ := c
  simp only [Cluster.documents, List.cons_append, List.mem_cons, List.mem_append,
    Option.mem_toList, Option.map_eq_some_iff] at hdoc
  rcases hdoc with rfl | ⟨_, -, rfl⟩ | ⟨_, -, rfl⟩
  · exact .head _
  · exact .tail _ (.head _)
  · exact .tail _ (.tail _ (.head _))

theorem isArtefact_document {c : Cluster} : ∀ doc ∈ c.documents, IsArtefact doc.1 := by
  have hall : ∀ file ∈ roleFiles, IsArtefact file := by decide
  exact fun doc hdoc => hall _ (document_file doc hdoc)

theorem inKubernetes_document {output : String} {c : Cluster} :
    ∀ doc ∈ c.documents, InKubernetes output (Path.join (Layout.documents output) doc.1) :=
  fun doc hdoc => ⟨Layout.configDir, doc.1, by decide, isArtefact_document doc hdoc, rfl⟩

theorem inKubernetes_fetches {r : BuildRequest} {selection : Selection}
    (h : ∀ name ∈ selection.installScript :: selection.install ++ selection.images,
      IsArtefact name) :
    ∀ f ∈ fetches r selection, InKubernetes r.output f.path := by
  intro f hf
  simp only [fetches, fetchPlan, List.cons_append, List.mem_cons, List.mem_append,
    List.mem_map] at hf h
  rcases hf with rfl | ⟨name, hname, rfl⟩ | ⟨name, hname, rfl⟩
  · exact ⟨Layout.installDir, _, by decide, h _ (.inl rfl), rfl⟩
  · exact ⟨Layout.installDir, _, by decide, h _ (.inr (.inl hname)), rfl⟩
  · exact ⟨Layout.imagesDir, _, by decide, h _ (.inr (.inr hname)), rfl⟩

theorem isArtefact_repositoryFile (d : Distribution) : IsArtefact (d.name ++ "-selinux" ++ ".repo") := by
  cases d <;> decide

theorem inKubernetes_repositoryFile (output : String) {version : String} {sources : ReleaseSources}
    {policy : SelinuxPolicy} (h : SelinuxPolicy.ofVersion version sources = .ok policy) :
    InKubernetes output (Layout.repositoryFile output policy.repositoryFile) := by
  refine ⟨Layout.repositoriesDir, policy.repositoryFile, by decide, ?_, rfl⟩
  unfold SelinuxPolicy.ofVersion at h
  cases hd : Distribution.ofVersion version with
  | error e => simp [hd, bind, Except.bind] at h
  | ok d =>
      simp only [hd, bind, Except.bind, pure, Except.pure, Except.ok.injEq] at h
      subst h
      exact isArtefact_repositoryFile d

theorem inKubernetes_key (r : BuildRequest) : InKubernetes r.output (keyPath r) :=
  ⟨Layout.keysDir, SelinuxPolicy.signingKeyFile, by decide, by decide, rfl⟩

theorem inKubernetes_vipManifest (output : String) :
    InKubernetes output (Layout.vipManifest output) :=
  ⟨Layout.manifestsDir, Layout.vipManifestFile, by decide, by decide, rfl⟩

/-! ## §2. The script is written last. -/

/-- The script is as it was, or a directory took its place where nothing
was. -/
def KeepsScript (output : String) : Bool → World → World → Prop :=
  fun _ w w' => FileTree.Keeps (target (Layout.script output)) w.tree w'.tree

/-- The script is as it was after a failure. -/
def KeepsScriptOnFailure (output : String) : Bool → World → World → Prop :=
  fun ok w w' => ok = false → KeepsScript output ok w w'

theorem composable_keepsScript (output : String) : Composable (KeepsScript output) :=
  ⟨fun _ _ => .refl _ _, fun h h' => FileTree.Keeps.trans h h'⟩

/-- What a build does before its script leaves the script alone. -/
theorem admits_keepsScript (output : String) :
    Admits (KeepsScript output) (InKubernetes output) where
  composable := composable_keepsScript output
  print _ _ := .refl _ _
  makeDirs _ path w := FileTree.keeps_makeDirs _ w.tree path
  write refused path content hpath w := by
    rw [runIn_change]
    split
    next tree hwrite =>
      -- the path that is written is not the script's, or it would be above it
      have hne : target (Layout.script output) ≠ target path := fun heq =>
        hpath.not_prefix_script.1 (heq ▸ List.prefix_refl _)
      exact .inl (FileTree.get?_write? hwrite hne)
    next => exact .refl _ _

theorem admitsFetch_keepsScript {d : Downloader} (hd : d.Confined) (output : String) :
    AdmitsFetch d (KeepsScript output) (InKubernetes output) := by
  intro url path hpath w
  obtain ⟨hplace, hpart⟩ := hpath.not_prefix_script
  exact .inl (hd w.requests url path w.tree _ hplace hpart)

/-- If the script cannot be written it is as it was, and if it can be, it can
be made executable. -/
theorem writeScript_keeps (output script : String) :
    Satisfies (KeepsScriptOnFailure output) (writeScript output script) := by
  intro w hfail
  unfold writeScript at hfail ⊢
  obtain ⟨made, hmade, ⟨e, herror⟩ | ⟨tree, hwrite, hok⟩⟩ :=
    writeText_spec (Layout.script output) script w
  · rw [runIn_bind_of_error herror]
    exact hmade _
  · rw [runIn_bind_of_ok hok] at hfail
    -- the mode can be changed of a file that was just written, so there is no failure here
    have hmode := FileTree.makeExecutable?_of_write? hwrite
    obtain ⟨tree', htree'⟩ := Option.isSome_iff_exists.1 hmode
    simp only [runIn_change, htree'] at hfail
    exact absurd hfail (by simp [Except.isOk, Except.toBool])

/-- A build that fails leaves the script as it was. -/
theorem finish_keeps {d : Downloader} (hd : d.Confined) {r : BuildRequest}
    {distribution : Distribution} {cluster : Cluster} {documents : List String}
    {selection : Selection}
    (hnames : ∀ name ∈ selection.installScript :: selection.install ++ selection.images,
      IsArtefact name) :
    Satisfies (KeepsScriptOnFailure r.output)
      (finish d r distribution cluster documents selection) := by
  have hadmits := admits_keepsScript r.output
  have hfetch := admitsFetch_keepsScript hd r.output
  -- the parts before the script keep it whether they fail or not; only the last one
  -- needs the failure
  have hfail : ∀ {ok u v w}, KeepsScript r.output true u v → KeepsScriptOnFailure r.output ok v w →
      KeepsScriptOnFailure r.output ok u w := fun h h' hok => FileTree.Keeps.trans h (h' hok)
  unfold finish
  refine Satisfies.seq (hadmits.fetchSelection hfetch fun _ => inKubernetes_fetches hnames)
    (fun _ => ?_) (fun h _ => h) hfail
  refine Satisfies.seq (hadmits.selinuxFor hfetch
    (fun _ policy hpolicy => inKubernetes_repositoryFile r.output hpolicy)
    fun _ _ => inKubernetes_key r) (fun _ => ?_) (fun h _ => h) hfail
  refine Satisfies.seq (hadmits.writeVipManifest fun _ => inKubernetes_vipManifest r.output)
    (fun _ => ?_) (fun h _ => h) hfail
  -- behind the script nothing can fail any more
  refine Satisfies.seq (S := fun ok _ _ => ok = true) (writeScript_keeps r.output _)
    (fun _ _ => rfl) (fun h => h) ?_
  intro ok u v w _ hok hfail
  exact absurd hfail (by simp [hok])

/-! ## §3. Whole builds. -/

/-- What can be said about the end of a build, `out`, that started with the
files of `tree`. -/
structure Disciplined (r : BuildRequest) (draw : Draw) (tree : FileTree)
    (out : Except Trouble (Option BuildReport) × World) : Prop where
  /-- Without a version nothing happens. -/
  unversioned : r.definition.cluster.version = "" → out = (.ok none, World.ofTree tree)
  /-- If no distribution is in the version, no file is changed and nothing is
  requested. -/
  unknown : r.definition.cluster.version ≠ "" →
    Distribution.ofVersion? r.definition.cluster.version = none →
    out.1.isOk = false ∧ out.2.tree = tree ∧ out.2.requests = []
  /-- If the cluster cannot be derived, neither. -/
  underived : r.definition.cluster.version ≠ "" →
    (clusterFor tree r.definition.cluster r.configDir r.settings.cluster draw).isOk = false →
    out.1.isOk = false ∧ out.2.tree = tree ∧ out.2.requests = []
  /-- If the role documents cannot be written, nothing is requested. -/
  unwritten : r.definition.cluster.version ≠ "" → ∀ cluster,
    clusterFor tree r.definition.cluster r.configDir r.settings.cluster draw = .ok cluster →
    ((writeDocuments (Layout.documents r.output) cluster.documents).runIn
      (warned tree cluster)).1.isOk = false →
    out.1.isOk = false ∧ out.2.requests = []
  /-- If the artefacts cannot be selected, neither. -/
  unselected : r.definition.cluster.version ≠ "" → ∀ distribution cluster,
    Distribution.ofVersion? r.definition.cluster.version = some distribution →
    clusterFor tree r.definition.cluster r.configDir r.settings.cluster draw = .ok cluster →
    (select distribution r.definition.arch cluster.serverDocument).isOk = false →
    out.1.isOk = false ∧ out.2.requests = []
  /-- What is requested is the beginning of the plan, and all of it if the
  build succeeds. -/
  planned : r.definition.cluster.version ≠ "" → ∀ distribution cluster selection,
    Distribution.ofVersion? r.definition.cluster.version = some distribution →
    clusterFor tree r.definition.cluster r.configDir r.settings.cluster draw = .ok cluster →
    select distribution r.definition.arch cluster.serverDocument = .ok selection →
    out.2.requests <+: requestPlan r selection cluster.serverDocument
      ∧ (out.1.isOk = true → out.2.requests = requestPlan r selection cluster.serverDocument)
  /-- If artefacts are skipped, nothing is requested. -/
  skipped : r.settings.skipArtefacts = true → out.2.requests = []
  /-- Nothing is requested after a request that failed. -/
  stopped : out.2.arrived.length = out.2.requests.length
    ∧ (∀ arrived ∈ out.2.arrived.dropLast, arrived = true)
    ∧ (out.1.isOk = true → ∀ arrived ∈ out.2.arrived, arrived = true)
  /-- If the build fails, the script has the content and the mode that it
  had. -/
  scriptKept : out.1.isOk = false →
    out.2.tree.fileAt (target (Layout.script r.output))
      = tree.fileAt (target (Layout.script r.output))

/-- The distribution that a version names, or none. -/
theorem ofVersion?_eq {version : String} {distribution : Distribution}
    (h : Distribution.ofVersion version = .ok distribution) :
    Distribution.ofVersion? version = some distribution := by
  unfold Distribution.ofVersion at h
  split at h
  next d hd =>
    obtain rfl := Except.ok.inj h
    exact hd
  next => exact absurd h (by simp)

section
variable {d : Downloader} {r : BuildRequest} {draw : Draw} {tree : FileTree}
  {out : Except Trouble BuildReport × World}

/-- Writing the role documents requests nothing. -/
theorem writeDocuments_quiet {cluster : Cluster} {dir : String} {x : Except Trouble (List String)}
    {w : World}
    (h : (writeDocuments dir cluster.documents).runIn (warned tree cluster) = (x, w)) :
    w.requests = [] ∧ w.arrived = [] := by
  have hquiet := (admits_quiet fun _ => True).writeDocuments dir cluster.documents
    (fun _ _ => trivial) (warned tree cluster)
  rw [h] at hquiet
  exact hquiet

/-- Once the artefacts are selected, requests are those of the plan. -/
theorem finish_progress {distribution : Distribution} {cluster : Cluster} {documents : List String}
    {selection : Selection} {w : World} (hw : w.requests = [] ∧ w.arrived = []) :
    Progress (requestPlan r selection cluster.serverDocument)
      ((finish d r distribution cluster documents selection).runIn w).1.isOk
      ((finish d r distribution cluster documents selection).runIn w).2.requests
      ((finish d r distribution cluster documents selection).runIn w).2.arrived := by
  obtain ⟨made, flags, hmade, hflags, hprogress⟩ :=
    finish_follows d r distribution cluster documents selection w
  rw [hmade, hflags, hw.1, hw.2]
  exact hprogress

/-- The requests of a course are those of some plan, which is empty if
artefacts are skipped. -/
theorem Course.progress (h : Course d r draw tree out) :
    ∃ plan, Progress plan out.1.isOk out.2.requests out.2.arrived
      ∧ (r.settings.skipArtefacts = true → plan = []) := by
  cases h with
  | unknown t hdistribution => exact ⟨[], .nothing [], fun _ => rfl⟩
  | underived t hdistribution hcluster => exact ⟨[], .nothing [], fun _ => rfl⟩
  | unwritten hdistribution hcluster hdocuments =>
      obtain ⟨hrequests, harrived⟩ := writeDocuments_quiet hdocuments
      rw [hrequests, harrived]
      exact ⟨[], .nothing [], fun _ => rfl⟩
  | unselected t hdistribution hcluster hdocuments hselection =>
      obtain ⟨hrequests, harrived⟩ := writeDocuments_quiet hdocuments
      rw [hrequests, harrived]
      exact ⟨[], .nothing [], fun _ => rfl⟩
  | finished hdistribution hcluster hdocuments hselection =>
      refine ⟨_, finish_progress (writeDocuments_quiet hdocuments), fun hskip => ?_⟩
      rw [requestPlan, if_pos hskip]

/-- If artefacts are selected, the plan is the one for them. -/
theorem Course.planned (h : Course d r draw tree out) {distribution : Distribution}
    {cluster : Cluster} {selection : Selection}
    (hdistribution : Distribution.ofVersion? r.definition.cluster.version = some distribution)
    (hcluster : clusterFor tree r.definition.cluster r.configDir r.settings.cluster draw
      = .ok cluster)
    (hselection : select distribution r.definition.arch cluster.serverDocument = .ok selection) :
    Progress (requestPlan r selection cluster.serverDocument) out.1.isOk out.2.requests
      out.2.arrived := by
  have hnamed : Distribution.ofVersion r.definition.cluster.version = .ok distribution := by
    rw [Distribution.ofVersion, hdistribution]
  cases h with
  -- what was derived and selected rules out all but two of the ways to end
  | unknown t hdistribution' => exact absurd (hnamed.symm.trans hdistribution') (by simp)
  | underived t hdistribution' hcluster' => exact absurd (hcluster.symm.trans hcluster') (by simp)
  | unwritten hdistribution' hcluster' hdocuments =>
      obtain ⟨hrequests, harrived⟩ := writeDocuments_quiet hdocuments
      rw [hrequests, harrived]
      exact .nothing _
  | unselected t hdistribution' hcluster' hdocuments hselection' =>
      obtain rfl := Except.ok.inj (hnamed.symm.trans hdistribution')
      obtain rfl := Except.ok.inj (hcluster.symm.trans hcluster')
      exact absurd (hselection.symm.trans hselection') (by simp)
  | finished hdistribution' hcluster' hdocuments hselection' =>
      obtain rfl := Except.ok.inj (hnamed.symm.trans hdistribution')
      obtain rfl := Except.ok.inj (hcluster.symm.trans hcluster')
      obtain rfl := Except.ok.inj (hselection.symm.trans hselection')
      exact finish_progress (writeDocuments_quiet hdocuments)

/-- A course that ends before anything is requested. -/
theorem Course.early (h : Course d r draw tree out)
    (hearly : ∀ distribution cluster selection w documents,
      Distribution.ofVersion r.definition.cluster.version = .ok distribution →
      clusterFor tree r.definition.cluster r.configDir r.settings.cluster draw = .ok cluster →
      (writeDocuments (Layout.documents r.output) cluster.documents).runIn (warned tree cluster)
        = (.ok documents, w) →
      select distribution r.definition.arch cluster.serverDocument ≠ .ok selection) :
    out.1.isOk = false ∧ out.2.requests = [] := by
  cases h with
  | unknown t hdistribution => exact ⟨rfl, rfl⟩
  | underived t hdistribution hcluster => exact ⟨rfl, rfl⟩
  | unwritten hdistribution hcluster hdocuments =>
      exact ⟨rfl, (writeDocuments_quiet hdocuments).1⟩
  | unselected t hdistribution hcluster hdocuments hselection =>
      exact ⟨rfl, (writeDocuments_quiet hdocuments).1⟩
  | finished hdistribution hcluster hdocuments hselection =>
      exact absurd hselection (hearly _ _ _ _ _ hdistribution hcluster hdocuments)

/-- A course that ends before anything is written. -/
theorem Course.untouched (h : Course d r draw tree out)
    (hunderived : ∀ distribution cluster,
      Distribution.ofVersion r.definition.cluster.version = .ok distribution →
      clusterFor tree r.definition.cluster r.configDir r.settings.cluster draw ≠ .ok cluster) :
    out.1.isOk = false ∧ out.2.tree = tree ∧ out.2.requests = [] := by
  cases h with
  | unknown t hdistribution => exact ⟨rfl, rfl, rfl⟩
  | underived t hdistribution hcluster => exact ⟨rfl, rfl, rfl⟩
  | unwritten hdistribution hcluster hdocuments =>
      exact absurd hcluster (hunderived _ _ hdistribution)
  | unselected t hdistribution hcluster hdocuments hselection =>
      exact absurd hcluster (hunderived _ _ hdistribution)
  | finished hdistribution hcluster hdocuments hselection =>
      exact absurd hcluster (hunderived _ _ hdistribution)

/-- A course that fails leaves the script as it was. -/
theorem Course.keeps (h : Course d r draw tree out) (hd : d.Confined)
    (hfail : out.1.isOk = false) :
    FileTree.Keeps (target (Layout.script r.output)) tree out.2.tree := by
  -- the role documents are written in three of the five ways to end
  have hdocs : ∀ {cluster : Cluster} {x : Except Trouble (List String)} {w : World},
      (writeDocuments (Layout.documents r.output) cluster.documents).runIn (warned tree cluster)
        = (x, w) → FileTree.Keeps (target (Layout.script r.output)) tree w.tree := by
    intro cluster x w hw
    have hkeeps := (admits_keepsScript r.output).writeDocuments _ cluster.documents
      inKubernetes_document (warned tree cluster)
    rw [hw] at hkeeps
    exact hkeeps
  cases h with
  | unknown t hdistribution => exact .refl _ _
  | underived t hdistribution hcluster => exact .refl _ _
  | unwritten hdistribution hcluster hdocuments => exact hdocs hdocuments
  | unselected t hdistribution hcluster hdocuments hselection => exact hdocs hdocuments
  | finished hdistribution hcluster hdocuments hselection =>
      exact (hdocs hdocuments).trans (finish_keeps hd (select_names hselection) _ hfail)

end

/-- A confined downloader lets every build be disciplined. -/
theorem run_disciplined {d : Downloader} (hd : d.Confined) (r : BuildRequest) (draw : Draw)
    (tree : FileTree) :
    Disciplined r draw tree ((run d r draw).runIn (World.ofTree tree)) := by
  by_cases hversion : r.definition.cluster.version = ""
  · have hrun : (run d r draw).runIn (World.ofTree tree) = (.ok none, World.ofTree tree) := by
      rw [run, if_pos hversion]
      rfl
    rw [hrun]
    exact {
      unversioned := fun _ => rfl
      unknown := fun h => absurd hversion h
      underived := fun h => absurd hversion h
      unwritten := fun h => absurd hversion h
      unselected := fun h => absurd hversion h
      planned := fun h => absurd hversion h
      skipped := fun _ => rfl
      stopped := by simp
      scriptKept := fun _ => rfl }
  · obtain ⟨printed, hrun⟩ := run_versioned d draw hversion (World.ofTree tree)
    have hcourse := runVersioned_course d r draw tree
    rw [hrun]
    generalize (runVersioned d r draw).runIn (World.ofTree tree) = out at hcourse ⊢
    -- the version's line aside, the build is its versioned part, which takes some course
    have hok : (out.1.map some).isOk = out.1.isOk := by cases out.1 <;> rfl
    obtain ⟨plan, hprogress, hskip⟩ := hcourse.progress
    constructor
    case unversioned => exact fun h => absurd h hversion
    case unknown =>
      intro _ hnone
      rw [hok]
      apply hcourse.untouched
      intro distribution cluster hdistribution
      rw [ofVersion?_eq hdistribution] at hnone
      exact absurd hnone (by simp)
    case underived =>
      intro _ hfail
      rw [hok]
      apply hcourse.untouched
      intro distribution cluster _ hcluster
      rw [hcluster] at hfail
      exact absurd hfail (by simp [Except.isOk, Except.toBool])
    case unwritten =>
      intro _ cluster hcluster hfail
      rw [hok]
      apply hcourse.early
      intro distribution cluster' selection w documents _ hcluster' hdocuments
      obtain rfl := Except.ok.inj (hcluster.symm.trans hcluster')
      rw [hdocuments] at hfail
      exact absurd hfail (by simp [Except.isOk, Except.toBool])
    case unselected =>
      intro _ distribution cluster hdistribution hcluster hfail
      rw [hok]
      apply hcourse.early
      intro distribution' cluster' selection w documents hdistribution' hcluster' _ hselection
      obtain rfl := Except.ok.inj (hcluster.symm.trans hcluster')
      obtain rfl := Option.some.inj (hdistribution.symm.trans (ofVersion?_eq hdistribution'))
      rw [hselection] at hfail
      exact absurd hfail (by simp [Except.isOk, Except.toBool])
    case planned =>
      intro _ distribution cluster selection hdistribution hcluster hselection
      have hplan := hcourse.planned hdistribution hcluster hselection
      rw [hok]
      exact ⟨hplan.isPrefix, hplan.whole⟩
    case skipped =>
      intro hskipped
      rw [hskip hskipped] at hprogress
      exact List.prefix_nil.1 hprogress.isPrefix
    case stopped =>
      rw [hok]
      exact ⟨hprogress.length_flags, hprogress.dropLast_flags, hprogress.all_flags⟩
    case scriptKept =>
      intro hfail
      rw [hok] at hfail
      exact (hcourse.keeps hd hfail).fileAt_eq

/-- A rehearsal that fails at the check sums stops there. -/
theorem run_disciplined_rehearsal :
    let d := Downloader.rehearsal (some "sha256sum")
    let r : BuildRequest :=
      ⟨⟨.x86_64, "v1.30.3+k3s1", .empty, [⟨"a", .server, false⟩]⟩, "config", "out", .default⟩
    let draw : Draw := Vector.replicate 32 7
    let out := (run d r draw).runIn (World.ofTree .empty)
    d.Confined ∧ Disciplined r draw .empty out ∧ out.2.arrived = [true, true, false] := by
  intro d r draw out
  have hd : d.Confined := Downloader.rehearsal_confined _
  exact ⟨hd, run_disciplined hd r draw .empty, by decide +kernel⟩

end ClusterBoot.Build
