/-
  ClusterBoot.Proofs.Secrecy
  ────────────────────────────────
  **THE TOKEN IS IN THE ROLE DOCUMENTS AND NOWHERE ELSE.**

  Two builds that differ in tokens only, be they drawn, fixed or the user's,
  differ in the role documents only, and there only under the token's key
  (`token_hidden`).  All that may differ between the files of the two is one
  `Difference`, which holds at the start and is kept to the end, however the
  builds end: at the user's documents what was there at the start, and at the
  role documents two texts whose mappings agree but for the token.
-/
import ClusterBoot.Proofs.TokenErasure
import ClusterBoot.Proofs.TwoRuns

namespace ClusterBoot

open FileTree (Difference)
open ClusterBoot.Path (IsName target)
open RoleDocument (withoutToken AgreeButToken)

/-- The request with another origin of missing tokens. -/
def BuildRequest.withTokenPolicy (r : BuildRequest) (policy : TokenPolicy) : BuildRequest :=
  { r with settings :=
    { r.settings with cluster := { r.settings.cluster with token := policy } } }

namespace Build

open ClusterBoot.Action (Together Passable mapError_ofExcept_ok runIn_bind_of_ok runIn_tree
  runIn_bind_ofExcept_error)

/-! ## §1. Places. -/

/-- The names of the user's documents. -/
def userFiles : List String := [Cluster.serverFile, Cluster.agentFile]

/-- Where a document of the user is. -/
def userPlace (r : BuildRequest) (file : String) : Location :=
  target (Layout.userDocument r.configDir file)

/-- Where a role document is written. -/
def rolePlace (r : BuildRequest) (file : String) : Location :=
  target (Path.join (Layout.documents r.output) file)

/-- A location that is neither a document of the user nor a role document. -/
structure Elsewhere (r : BuildRequest) (l : Location) : Prop where
  /-- It is no document of the user. -/
  ne_user : ∀ file ∈ userFiles, l ≠ userPlace r file
  /-- It is no role document. -/
  ne_role : ∀ file ∈ roleFiles, l ≠ rolePlace r file

theorem isName_roleFile : ∀ file ∈ roleFiles, IsName file := by decide

theorem roleFile_of_userFile : ∀ file ∈ userFiles, file ∈ roleFiles := by decide

/-- Both are files of the same names in directories of the same names. -/
theorem place_shape {r : BuildRequest} {l : Location}
    (h : (∃ file ∈ userFiles, l = userPlace r file) ∨ ∃ file ∈ roleFiles, l = rolePlace r file) :
    ∃ base, ∃ file ∈ roleFiles, l = base ++ [Layout.kubernetesDir, Layout.configDir, file] := by
  rcases h with ⟨file, hfile, rfl⟩ | ⟨file, hfile, rfl⟩
  · have hrole := roleFile_of_userFile file hfile
    exact ⟨_, file, hrole,
      FileTree.target_join₃ (by decide) (by decide) (isName_roleFile file hrole)⟩
  · exact ⟨_, file, hfile, target_inKubernetes (by decide) (isName_roleFile file hfile)⟩

/-- What is not of that shape is elsewhere. -/
theorem Elsewhere.of_shape {r : BuildRequest} {l : Location}
    (h : ∀ base, ∀ file ∈ roleFiles,
      l ≠ base ++ [Layout.kubernetesDir, Layout.configDir, file]) : Elsewhere r l where
  ne_user file hfile heq := by
    obtain ⟨base, file', hfile', hl⟩ := place_shape (r := r) (.inl ⟨file, hfile, heq⟩)
    exact h base file' hfile' hl
  ne_role file hfile heq := by
    obtain ⟨base, file', hfile', hl⟩ := place_shape (r := r) (.inr ⟨file, hfile, heq⟩)
    exact h base file' hfile' hl

/-- A location with another last name is elsewhere. -/
theorem Elsewhere.of_last {r : BuildRequest} {base : Location} {name : String}
    (h : name ∉ roleFiles) : Elsewhere r (base ++ [name]) := by
  refine .of_shape fun base' file hfile heq => ?_
  have hlast := congrArg List.getLast? heq
  rw [List.getLast?_concat, List.getLast?_append_of_ne_nil _ (by simp)] at hlast
  obtain rfl : name = file := by simpa using hlast
  exact h hfile

/-- A location in a directory of another name is elsewhere. -/
theorem Elsewhere.of_directory {r : BuildRequest} {base : Location} {dir name : String}
    (h : dir ≠ Layout.configDir) : Elsewhere r (base ++ [dir, name]) := by
  refine .of_shape fun base' file _ heq => h ?_
  have hends : base ++ [dir, name] = base' ++ [Layout.kubernetesDir] ++ [Layout.configDir, file] := by
    rw [heq]
    simp
  exact (List.cons.inj (List.append_inj' hends rfl).2).1

/-! ## §2. Two builds that differ in tokens. -/

/-- The files that two builds start with differ in the tokens of the user's
documents only. -/
structure TokensDiffer (r : BuildRequest) (tree tree' : FileTree) : Prop where
  /-- The other files are the same. -/
  elsewhere : ∀ l, (∀ file ∈ userFiles, l ≠ userPlace r file) → tree'.get? l = tree.get? l
  /-- The user's documents are read as documents that are equal without their
  tokens, or cannot be read for the same reason. -/
  documents : ∀ file ∈ userFiles, (loadUserDocument tree' r.configDir file).map withoutToken
    = (loadUserDocument tree r.configDir file).map withoutToken
  /-- They are no directories in one of the trees only. -/
  directory : ∀ file ∈ userFiles, tree.get? (userPlace r file) = some .directory
    ↔ tree'.get? (userPlace r file) = some .directory
  /-- If the output path leads through one of them, it is not missing in one of
  the trees only. -/
  present : ∀ file ∈ userFiles, Path.Passes r.output (userPlace r file) →
    (tree.get? (userPlace r file) = none ↔ tree'.get? (userPlace r file) = none)

/-- Two files that hold role documents, whose mappings differ at most under the
token's key. -/
def BothEmitted (e e' : Option FileEntry) : Prop :=
  ∃ (doc doc' : RoleDocument) (executable executable' : Bool),
    AgreeButToken doc.toMapping doc'.toMapping
      ∧ e = some (.file doc.toText.toUTF8 executable)
      ∧ e' = some (.file doc'.toText.toUTF8 executable')

/-- What can be said about the ends `out` and `out'` of two builds that started
with the files of `tree` and `tree'`. -/
structure TokenHidden (r : BuildRequest) (tree tree' : FileTree)
    (out out' : Except Trouble (Option BuildReport) × World) : Prop where
  /-- Both succeed with the same report, or fail with the same trouble. -/
  result : out'.1 = out.1
  /-- The same is requested. -/
  requests : out'.2.requests = out.2.requests
  /-- The same is printed. -/
  printed : out'.2.printed = out.2.printed
  /-- All other files are the same at the end, with the same mode. -/
  files : ∀ l, Elsewhere r l → out'.2.tree.get? l = out.2.tree.get? l
  /-- The role documents are the same, or were not written by either, or hold
  mappings that differ at most under the token's key. -/
  documents : ∀ file ∈ roleFiles,
    out'.2.tree.get? (rolePlace r file) = out.2.tree.get? (rolePlace r file)
    ∨ out.2.tree.get? (rolePlace r file) = tree.get? (rolePlace r file)
      ∧ out'.2.tree.get? (rolePlace r file) = tree'.get? (rolePlace r file)
    ∨ BothEmitted (out.2.tree.get? (rolePlace r file)) (out'.2.tree.get? (rolePlace r file))

/-! ## §3. What may differ. -/

section
variable {r : BuildRequest} {tree tree' : FileTree}

/-- All that may differ between the files of two builds: what differed at the
start, and the role documents. -/
def TokensDiffer.difference (h : TokensDiffer r tree tree') : Difference where
  permits l e e' := e' = e ∨ e = tree.get? l ∧ e' = tree'.get? l
    ∨ (∃ file ∈ roleFiles, l = rolePlace r file) ∧ BothEmitted e e'
  same _ _ := .inl rfl
  directory := by
    rintro l e e' (rfl | ⟨rfl, rfl⟩ | ⟨-, doc, doc', x, x', -, rfl, rfl⟩)
    · rfl
    · by_cases huser : ∃ file ∈ userFiles, l = userPlace r file
      · obtain ⟨file, hfile, rfl⟩ := huser
        exact h.directory file hfile
      · rw [h.elsewhere l fun file hfile heq => huser ⟨file, hfile, heq⟩]
    · simp

/-- The worlds that the builds start in are alike. -/
theorem TokensDiffer.alike_ofTree (h : TokensDiffer r tree tree') :
    World.Alike h.difference (World.ofTree tree) (World.ofTree tree') :=
  ⟨fun _ => .inr (.inl ⟨rfl, rfl⟩), rfl, rfl, rfl⟩

/-- Elsewhere nothing may differ. -/
theorem TokensDiffer.isPublic (h : TokensDiffer r tree tree') {l : Location}
    (hl : Elsewhere r l) : h.difference.Public l := by
  rintro e e' (rfl | ⟨rfl, rfl⟩ | ⟨⟨file, hfile, rfl⟩, -⟩)
  · rfl
  · exact h.elsewhere l hl.ne_user
  · exact absurd rfl (hl.ne_role file hfile)

/-- Where a document of the user may be missing in one of the trees only, the
output path does not lead. -/
theorem TokensDiffer.passable (h : TokensDiffer r tree tree') {l : Location}
    (hl : Path.Passes r.output l ∨ Elsewhere r l) : h.difference.Passable l := by
  rintro e e' (rfl | ⟨rfl, rfl⟩ | ⟨-, doc, doc', x, x', -, rfl, rfl⟩)
  · rfl
  · by_cases huser : ∃ file ∈ userFiles, l = userPlace r file
    · obtain ⟨file, hfile, rfl⟩ := huser
      rcases hl with hl | hl
      · exact h.present file hfile hl
      · exact absurd rfl (hl.ne_user file hfile)
    · rw [h.elsewhere l fun file hfile heq => huser ⟨file, hfile, heq⟩]
  · simp

/-- The directories of a build can be made. -/
theorem TokensDiffer.passable_sub (h : TokensDiffer r tree tree') {sub : String}
    (hsub : IsName sub) : Passable h.difference (Path.join (Layout.kubernetes r.output) sub) := by
  intro l hl
  rcases (Path.passes_join hsub).1 hl with rfl | hl
  · rw [Layout.kubernetes, Path.target_join (by decide), List.append_assoc]
    exact h.passable (.inr (.of_directory (by decide)))
  · rcases (Path.passes_join (by decide)).1 hl with rfl | hl
    · exact h.passable (.inr (.of_last (by decide)))
    · exact h.passable (.inl hl)

/-- A file that is written later can be received where nothing may differ. -/
theorem TokensDiffer.clear_sub (h : TokensDiffer r tree tree') {sub name : String}
    (hsub : IsName sub) (hname : IsName name) (hne : sub ≠ Layout.configDir) :
    Clear h.difference (Path.join (Path.join (Layout.kubernetes r.output) sub) name) := by
  refine clear_join hname (h.passable_sub hsub) fun file _ => ?_
  rw [Path.target_join hsub, List.append_assoc]
  exact h.isPublic (.of_directory hne)

/-- So can the script. -/
theorem TokensDiffer.clear_script (h : TokensDiffer r tree tree') :
    Clear h.difference (Layout.script r.output) := by
  have hfiles : ∀ file ∈ [Layout.scriptFile, Layout.scriptFile ++ ".part"], file ∉ roleFiles := by
    decide
  exact clear_join (by decide) (fun l hl => h.passable (.inl hl)) fun file hfile =>
    h.isPublic (.of_last (hfiles file hfile))

/-! ## §4. The two builds, part by part. -/

variable {d : Downloader} {distribution : Distribution}

/-- Clusters that are equal without their tokens have documents of the same
names, equal without their tokens. -/
theorem documents_agree {c c' : Cluster} (h : c'.withoutTokens = c.withoutTokens) :
    List.Forall₂ (fun doc doc' =>
      doc.1 ∈ roleFiles ∧ doc'.1 = doc.1 ∧ doc.2.withoutToken = doc'.2.withoutToken)
      c.documents c'.documents := by
  have hdocuments := congrArg Cluster.documents h
  rw [Cluster.withoutTokens_documents, Cluster.withoutTokens_documents, ← List.forall₂_eq_eq_eq,
    List.forall₂_map_left_iff, List.forall₂_map_right_iff] at hdocuments
  refine List.forall₂_and_left _ _ |>.2 ⟨document_file, ?_⟩
  refine hdocuments.flip.imp fun doc doc' hsame => ?_
  exact ⟨(Prod.mk.inj hsame).1, (Prod.mk.inj hsame).2.symm⟩

/-- The role documents of both are written together. -/
theorem TokensDiffer.writeDocuments (h : TokensDiffer r tree tree') {c c' : Cluster}
    (hc : c'.withoutTokens = c.withoutTokens) :
    Together h.difference (writeDocuments (Layout.documents r.output) c.documents)
      (writeDocuments (Layout.documents r.output) c'.documents) := by
  refine Together.writeDocuments (h.passable_sub (by decide)) ?_
  refine (documents_agree hc).imp fun doc doc' hdoc => ?_
  obtain ⟨hfile, hname, hsame⟩ := hdoc
  refine ⟨hname, isName_roleFile _ hfile, fun x x' => .inr (.inr ⟨⟨doc.1, hfile, rfl⟩, ?_⟩)⟩
  exact ⟨_, _, x, x', RoleDocument.toMapping_agrees hsame, rfl, rfl⟩

/-- The last part goes together with itself. -/
theorem TokensDiffer.finish (h : TokensDiffer r tree tree') (hd : d.Blind)
    {cluster : Cluster} {selection : Selection}
    (hdistribution : Distribution.ofVersion r.definition.cluster.version = .ok distribution)
    (hselection : select distribution r.definition.arch cluster.serverDocument = .ok selection)
    (documents : List String) :
    Together h.difference (finish d r distribution cluster documents selection)
      (finish d r distribution cluster documents selection) := by
  refine (carries_together h.difference).finish (carriesFetch_together hd h.difference)
    hdistribution ?_ ?_ h.clear_script ?_ documents
  · intro sub hsub
    have hname : ∀ sub ∈ [Layout.installDir, Layout.imagesDir, Layout.keysDir], IsName sub := by
      decide
    exact h.passable_sub (hname sub hsub)
  · intro path hpath
    obtain ⟨sub, name, hsub, hname, hne, rfl⟩ := laterPaths_sub (select_names hselection) path hpath
    exact h.clear_sub hsub hname hne
  · exact fun refused => .change refused fun _ _ ht => ht.makeExecutable? h.clear_script.isPublic

/-- The last part does not look at where tokens come from. -/
theorem finish_withTokenPolicy (policy : TokenPolicy) (cluster : Cluster) (documents : List String)
    (selection : Selection) :
    finish d (r.withTokenPolicy policy) distribution cluster documents selection
      = finish d r distribution cluster documents selection := rfl

/-- What is done with two clusters that are equal without their tokens goes
together. -/
theorem TokensDiffer.withCluster (h : TokensDiffer r tree tree') (hd : d.Blind)
    (hdistribution : Distribution.ofVersion r.definition.cluster.version = .ok distribution)
    (policy : TokenPolicy) {c c' : Cluster} (hc : c'.withoutTokens = c.withoutTokens) :
    Together h.difference
      (do
        .printAll (c.warnings.map Warning.line)
        let documents ← Build.writeDocuments (Layout.documents r.output) c.documents
        let selection ← .mapError (failureIn .selectingArtefacts)
          (.ofExcept (select distribution r.definition.arch c.serverDocument))
        Build.finish d r distribution c documents selection)
      (do
        .printAll (c'.warnings.map Warning.line)
        let documents ← Build.writeDocuments (Layout.documents r.output) c'.documents
        let selection ← .mapError (failureIn .selectingArtefacts)
          (.ofExcept (select distribution r.definition.arch c'.serverDocument))
        Build.finish d (r.withTokenPolicy policy) distribution c' documents selection) := by
  have hwarnings : c'.warnings = c.warnings := (congrArg Cluster.warnings hc :)
  rw [hwarnings, select_congr hc]
  apply Together.bind (.printAll _)
  intro _
  apply Together.bind (h.writeDocuments hc)
  intro documents
  cases hselection : select distribution r.definition.arch c.serverDocument with
  | error f => exact .ofExcept (.error (failureIn .selectingArtefacts f))
  | ok selection =>
      rw [mapError_ofExcept_ok, pure_bind, pure_bind, finish_withTokenPolicy, finish_congr hc]
      exact h.finish hd hdistribution hselection documents

/-- Two builds of an image that has a version have the same result, and their
worlds are alike at the end. -/
theorem TokensDiffer.runVersioned (h : TokensDiffer r tree tree') (hd : d.Blind)
    (policy : TokenPolicy) (draw draw' : Draw) :
    ((runVersioned d (r.withTokenPolicy policy) draw').runIn (World.ofTree tree')).1
        = ((runVersioned d r draw).runIn (World.ofTree tree)).1
      ∧ World.Alike h.difference ((runVersioned d r draw).runIn (World.ofTree tree)).2
        ((runVersioned d (r.withTokenPolicy policy) draw').runIn (World.ofTree tree')).2 := by
  have hstart := h.alike_ofTree
  have hclusters : (clusterFor tree' r.definition.cluster r.configDir
        { r.settings.cluster with token := policy } draw').map Cluster.withoutTokens
      = (clusterFor tree r.definition.cluster r.configDir r.settings.cluster draw).map
        Cluster.withoutTokens :=
    clusterFor_withoutTokens draw draw' rfl h.documents
  unfold Build.runVersioned
  dsimp only [BuildRequest.withTokenPolicy]
  cases hdistribution : Distribution.ofVersion r.definition.cluster.version with
  | error f =>
      rw [runIn_bind_ofExcept_error, runIn_bind_ofExcept_error]
      exact ⟨rfl, hstart⟩
  | ok distribution =>
      unfold runFor
      rw [mapError_ofExcept_ok, pure_bind, pure_bind, runIn_bind_of_ok (runIn_tree _),
        runIn_bind_of_ok (runIn_tree _), World.tree_ofTree, World.tree_ofTree]
      rcases Except.cases_of_map_eq hclusters with ⟨f, hf, hf'⟩ | ⟨c, c', hc, hc', hsame⟩
      · rw [hf, hf', runIn_bind_ofExcept_error, runIn_bind_ofExcept_error]
        exact ⟨rfl, hstart⟩
      · rw [hc, hc', mapError_ofExcept_ok, mapError_ofExcept_ok, pure_bind, pure_bind]
        exact h.withCluster hd hdistribution policy hsame _ _ hstart

/-! ## §5. The token is hidden. -/

/-- What can be said about two ends with the same result in worlds that are
alike. -/
theorem TokensDiffer.hidden (h : TokensDiffer r tree tree')
    {out out' : Except Trouble (Option BuildReport) × World} (hresult : out'.1 = out.1)
    (hworlds : World.Alike h.difference out.2 out'.2) : TokenHidden r tree tree' out out' where
  result := hresult
  requests := hworlds.requests
  printed := hworlds.printed
  files _ hl := hworlds.tree.get?_eq (h.isPublic hl)
  documents file _ := by
    rcases hworlds.tree (rolePlace r file) with hsame | hbefore | ⟨-, hemitted⟩
    · exact .inl hsame
    · exact .inr (.inl hbefore)
    · exact .inr (.inr hemitted)

/-- **The token shows in the role documents only.**  The downloader may be any
that does not look at files that are not its own. -/
theorem token_hidden (hd : d.Blind) (h : TokensDiffer r tree tree') (policy : TokenPolicy)
    (draw draw' : Draw) :
    TokenHidden r tree tree' ((run d r draw).runIn (World.ofTree tree))
      ((run d (r.withTokenPolicy policy) draw').runIn (World.ofTree tree')) := by
  by_cases hversion : r.definition.cluster.version = ""
  · have hversion' : (r.withTokenPolicy policy).definition.cluster.version = "" := hversion
    rw [run, run, if_pos hversion, if_pos hversion']
    exact h.hidden rfl h.alike_ofTree
  · obtain ⟨hresult, hworlds⟩ := h.runVersioned hd policy draw draw'
    rw [run_announced d draw hversion,
      run_announced (r := r.withTokenPolicy policy) d draw' hversion, hresult]
    exact h.hidden rfl
      ⟨hworlds.tree, hworlds.requests, hworlds.arrived, congrArg (· ++ _) hworlds.printed⟩

end

/-- Putting a document of the user changes nothing elsewhere. -/
theorem get?_put_userPlace {r : BuildRequest} {t : FileTree} {place l : Location} (e : FileEntry)
    (hplace : ∃ file ∈ userFiles, userPlace r file = place)
    (hl : ∀ file ∈ userFiles, l ≠ userPlace r file) : (t.put place e).get? l = t.get? l := by
  obtain ⟨file, hfile, rfl⟩ := hplace
  exact FileTree.get?_put_of_ne e (hl file hfile)

/-- A cluster of two nodes, once with a token of the user and once with a drawn
one and no document of the user. -/
theorem token_hidden_drawn :
    let d := Downloader.rehearsal none
    let r : BuildRequest :=
      ⟨⟨.x86_64, "v1.30.3+k3s1", .empty, [⟨"a", .server, false⟩, ⟨"b", .agent, false⟩]⟩,
        "config", "out", .default⟩
    let tree : FileTree := ⟨[
      (["config"], .directory),
      (["config", "kubernetes"], .directory),
      (["config", "kubernetes", "config"], .directory)]⟩
    let tree' := tree.put ["config", "kubernetes", "config", "server.yaml"]
      (.file "token: a\n".toUTF8 false)
    let drawn := (run d r (Vector.replicate 32 7)).runIn (World.ofTree tree)
    let given := (run d (r.withTokenPolicy .placeholder) (Vector.replicate 32 8)).runIn
      (World.ofTree tree')
    d.Blind ∧ TokensDiffer r tree tree' ∧ TokenHidden r tree tree' drawn given
      ∧ drawn.1.isOk = true := by
  intro d r tree tree' drawn given
  have hd : d.Blind := Downloader.rehearsal_blind none
  have h : TokensDiffer r tree tree' := {
    elsewhere := fun l hl => get?_put_userPlace _ (by decide +kernel) hl
    documents := by decide +kernel
    directory := by decide +kernel
    present := by decide +kernel }
  exact ⟨hd, h, token_hidden hd h .placeholder _ _, by decide +kernel⟩

/-- A document that is missing is read as the empty one.  An output path that
leads through its place still tells whether it is there: no directory can be
made where there is a file. -/
theorem missing_document_shows :
    let d := Downloader.rehearsal none
    let r : BuildRequest :=
      ⟨⟨.x86_64, "v1.30.3+k3s1", .empty, [⟨"a", .server, false⟩]⟩,
        "config", "config/kubernetes/config/server.yaml",
        { Settings.default with skipArtefacts := true }⟩
    let draw : Draw := Vector.replicate 32 7
    let tree : FileTree := ⟨[
      (["config"], .directory),
      (["config", "kubernetes"], .directory),
      (["config", "kubernetes", "config"], .directory)]⟩
    let tree' := tree.put ["config", "kubernetes", "config", "server.yaml"]
      (.file "token: a\n".toUTF8 false)
    (∀ l, (∀ file ∈ userFiles, l ≠ userPlace r file) → tree'.get? l = tree.get? l)
      ∧ (∀ file ∈ userFiles, (loadUserDocument tree r.configDir file).isOk = true
        ∧ (loadUserDocument tree' r.configDir file).map withoutToken
          = (loadUserDocument tree r.configDir file).map withoutToken)
      ∧ ((run d r draw).runIn (World.ofTree tree)).1.isOk = true
      ∧ ((run d r draw).runIn (World.ofTree tree')).1.isOk = false := by
  intro d r draw tree tree'
  refine ⟨fun l hl => get?_put_userPlace _ (by decide +kernel) hl, ?_, ?_, ?_⟩
  · decide +kernel
  · decide +kernel
  · decide +kernel

end Build

end ClusterBoot
