/-
  ClusterBoot.Proofs.BuildParts
  ────────────────────────────────
  **THE PARTS OF A BUILD, ONE BY ONE.**

  Before its script a build prints, makes directories, writes files and
  fetches files, and nothing else.  So a property of actions that holds of
  each of these holds of each part of a build (`Carries`), and all that a
  claim about builds has to say is which paths are written.  Most often the
  property is that worlds before and after are related (`Admits`).  The
  requests of the parts are those of their plans, in order (`…_follows`).
  Whether a build fails, and with which trouble, is decided by four questions
  in a fixed order and then by its last part (`runVersioned_eq`).
-/
import ClusterBoot.Build
import ClusterBoot.Proofs.Actions
import ClusterBoot.Proofs.Trees

namespace ClusterBoot.Build

open ClusterBoot.Action

/-! ## §1. Writing a file. -/

/-- Writing a file makes directories first; then it fails and nothing else
happened, or the file is written. -/
theorem writeText_spec (path text : String) (w : World) :
    ∃ made, (∀ l, FileTree.Keeps l w.tree made)
      ∧ ((∃ e, (writeText path text).runIn w = (.error e, { w with tree := made }))
        ∨ ∃ tree, made.write? path text.toUTF8 = some tree
          ∧ (writeText path text).runIn w = (.ok (), { w with tree := tree })) := by
  unfold writeText
  cases Path.parent? path with
  | none =>
      refine ⟨w.tree, fun l => .refl l w.tree, ?_⟩
      simp only [runIn_change]
      cases hwrite : w.tree.write? path text.toUTF8 with
      | none => exact .inl ⟨_, rfl⟩
      | some tree => exact .inr ⟨tree, rfl, rfl⟩
  | some dir =>
      have hkeeps := fun l => FileTree.keeps_makeDirs l w.tree dir
      refine ⟨(w.tree.makeDirs dir).2, hkeeps, ?_⟩
      -- directories may be made although the file is not written, so the tree between
      -- the two is named in every case
      simp only [runIn_bind, runIn_makeDirs, runIn_change]
      cases (w.tree.makeDirs dir).1 with
      | false => exact .inl ⟨_, rfl⟩
      | true =>
          simp only [if_true]
          cases hwrite : (w.tree.makeDirs dir).2.write? path text.toUTF8 with
          | none => exact .inl ⟨_, rfl⟩
          | some tree => exact .inr ⟨tree, rfl, rfl⟩

/-! ## §2. Properties of the steps and of the parts. -/

/-- A property of actions that holds of what is made of such actions, and of
the steps of a build: printing, making the directories and writing the files at
some paths. -/
structure Carries (P : (ε α : Type) → Action ε α → Prop) (dirs paths : String → Prop) : Prop where
  /-- It holds of values and of failures. -/
  ofExcept : ∀ {ε α : Type} (x : Except ε α), P ε α (.ofExcept x)
  /-- Of one action after another. -/
  bind : ∀ {ε α β : Type} {a : Action ε α} {f : α → Action ε β},
    P ε α a → (∀ x, P ε β (f x)) → P ε β (a >>= f)
  /-- Of an action that fails in other words. -/
  mapError : ∀ {ε ε' α : Type} (f : ε → ε') {a : Action ε α}, P ε α a → P ε' α (a.mapError f)
  /-- Of printing. -/
  print : ∀ {ε : Type} (line : String), P ε Unit (.print line)
  /-- Of making directories. -/
  makeDirs : ∀ {ε : Type} (refused : ε) (path : String), dirs path →
    P ε Unit (.makeDirs refused path)
  /-- Of writing files. -/
  write : ∀ {ε : Type} (refused : ε) (path : String) (content : ByteArray), paths path →
    P ε Unit (.change refused fun t => t.write? path content)
  /-- The directories of the files are among those that are made. -/
  parent : ∀ {path dir : String}, paths path → Path.parent? path = some dir → dirs dir

/-- A downloader that a property holds of, where it stores at those paths. -/
def CarriesFetch (d : Downloader) (P : (ε α : Type) → Action ε α → Prop)
    (paths : String → Prop) : Prop :=
  ∀ url path, paths path → P _ _ (d.run url path)

/-- The files that are fetched for a build. -/
def fetches (r : BuildRequest) (selection : Selection) : List Fetch :=
  fetchPlan selection r.definition.cluster.version r.settings.sources
    (Layout.ArtefactPaths.under (Layout.kubernetes r.output))

/-- Where the signing key of a build is stored. -/
def keyPath (r : BuildRequest) : String :=
  Path.join (Layout.keys r.output) SelinuxPolicy.signingKeyFile

section
variable {P : (ε α : Type) → Action ε α → Prop} {dirs paths : String → Prop} {d : Downloader}

theorem Carries.pure (h : Carries P dirs paths) {ε α : Type} (a : α) :
    P ε α (pure a) :=
  h.ofExcept (.ok a)

theorem Carries.map (h : Carries P dirs paths) {ε α β : Type} (f : α → β) {a : Action ε α}
    (ha : P ε α a) : P ε β (f <$> a) := by
  rw [map_eq_bind]
  exact h.bind ha fun x => h.pure (f x)

theorem Carries.writeText (h : Carries P dirs paths) {path : String} (text : String)
    (hpath : paths path) : P _ _ (writeText path text) := by
  unfold Build.writeText
  cases hparent : Path.parent? path with
  | none => exact h.write _ path _ hpath
  | some dir =>
      exact h.bind (h.makeDirs _ dir (h.parent hpath hparent)) fun _ => h.write _ path _ hpath

theorem Carries.writeDocuments (h : Carries P dirs paths) (dir : String)
    (docs : List (String × RoleDocument)) (hdocs : ∀ doc ∈ docs, paths (Path.join dir doc.1)) :
    P _ _ (writeDocuments dir docs) := by
  induction docs with
  | nil => exact h.pure []
  | cons doc docs ih =>
      apply h.bind
      · exact h.writeText _ (hdocs doc (by simp))
      · intro _
        apply h.bind (h.print _)
        intro _
        apply h.bind
        · exact ih fun other hother => hdocs other (List.mem_cons_of_mem _ hother)
        · exact fun _ => h.pure _

theorem Carries.fetchAll (h : Carries P dirs paths) (hd : CarriesFetch d P paths) {fs : List Fetch}
    (hfs : ∀ f ∈ fs, paths f.path) : P _ _ (fetchAll d fs) := by
  induction fs with
  | nil => exact h.pure ()
  | cons f fs ih =>
      apply h.bind
      · exact h.mapError _ (hd f.url f.path (hfs f (by simp)))
      · exact fun _ => ih fun g hg => hfs g (List.mem_cons_of_mem _ hg)

theorem Carries.fetchSelection (h : Carries P dirs paths) (hd : CarriesFetch d P paths)
    {r : BuildRequest} {selection : Selection}
    (hinstall : dirs (Path.join (Layout.kubernetes r.output) Layout.installDir))
    (himages : dirs (Path.join (Layout.kubernetes r.output) Layout.imagesDir))
    (hfetch : r.settings.skipArtefacts = false → ∀ f ∈ fetches r selection, paths f.path) :
    P _ _ (fetchSelection d r selection) := by
  unfold Build.fetchSelection
  split
  next => exact h.bind (h.print _) fun _ => h.pure none
  next hskip =>
    apply h.bind (h.print _)
    intro _
    apply h.bind
    · apply h.mapError
      apply h.bind (h.makeDirs _ _ hinstall)
      intro _
      apply h.bind (h.makeDirs _ _ himages)
      intro _
      apply h.bind
      · exact h.fetchAll hd (hfetch (by simpa using hskip))
      · exact fun _ => h.pure _
    · exact fun _ => h.bind (h.print _) fun _ => h.pure _

theorem Carries.prepareSelinux (h : Carries P dirs paths) (hd : CarriesFetch d P paths)
    {r : BuildRequest} (hkeys : dirs (Layout.keys r.output))
    (hrepository : ∀ policy, SelinuxPolicy.ofVersion r.definition.cluster.version
      r.settings.sources = .ok policy → paths (Layout.repositoryFile r.output policy.repositoryFile))
    (hkey : r.settings.skipArtefacts = false → paths (keyPath r)) :
    P _ _ (prepareSelinux d r) := by
  unfold Build.prepareSelinux
  cases hpolicy : SelinuxPolicy.ofVersion r.definition.cluster.version r.settings.sources with
  | error e => exact h.mapError (failureIn .resolvingPolicy) (h.ofExcept (.error e))
  | ok policy =>
      rw [mapError_ofExcept_ok, pure_bind]
      apply h.bind (h.writeText _ (hrepository policy hpolicy))
      intro _
      -- whether a key is fetched or not, what follows prints and nothing else
      have hreport : ∀ key : Option String, P _ _
          (Action.print ("✓ SELinux policy package: " ++ policy.package) >>= fun _ =>
            (Pure.pure (policy, (⟨policy.package,
              Layout.repositoryFileInScript policy.repositoryFile, key⟩ : SelinuxInstall)) :
              Action Trouble _)) :=
        fun _ => h.bind (h.print _) fun _ => h.pure _
      split
      next => exact h.bind (h.pure none) hreport
      next hskip =>
        apply h.bind
        · apply h.mapError
          apply h.bind (h.makeDirs _ _ hkeys)
          intro _
          apply h.bind
          · exact h.mapError _ (hd _ _ (hkey (by simpa using hskip)))
          · exact fun _ => h.pure _
        · exact fun _ => h.bind (h.pure _) hreport

theorem Carries.selinuxFor (h : Carries P dirs paths) (hd : CarriesFetch d P paths)
    {r : BuildRequest} {server : RoleDocument} (hkeys : dirs (Layout.keys r.output))
    (hrepository : server.selinuxEnabled = true → ∀ policy,
      SelinuxPolicy.ofVersion r.definition.cluster.version r.settings.sources = .ok policy →
        paths (Layout.repositoryFile r.output policy.repositoryFile))
    (hkey : server.selinuxEnabled = true → r.settings.skipArtefacts = false → paths (keyPath r)) :
    P _ _ (selinuxFor d r server) := by
  unfold Build.selinuxFor
  split
  next hserver => exact h.map some (h.prepareSelinux hd hkeys (hrepository hserver) (hkey hserver))
  next => exact h.pure none

theorem Carries.writeVipManifest (h : Carries P dirs paths) {output : String}
    {addresses : Option VirtualAddresses}
    (hmanifest : addresses.isSome = true → paths (Layout.vipManifest output)) :
    P _ _ (writeVipManifest output addresses) := by
  cases addresses with
  | none => exact h.pure none
  | some v =>
      apply h.bind (h.writeText _ (hmanifest rfl))
      exact fun _ => h.bind (h.print _) fun _ => h.pure _

end

/-! ## §3. Relations that admit what a build does. -/

/-- A relation between the worlds before and after that holds across printing,
making directories and writing the files at some paths. -/
structure Admits (R : Bool → World → World → Prop) (paths : String → Prop) : Prop where
  /-- It holds across any number of actions. -/
  composable : Composable R
  /-- Across printing. -/
  print : ∀ {ε : Type} (line : String), Satisfies R (.print line : Action ε Unit)
  /-- Across making directories. -/
  makeDirs : ∀ {ε : Type} (refused : ε) (path : String), Satisfies R (.makeDirs refused path)
  /-- Across writing a file. -/
  write : ∀ {ε : Type} (refused : ε) (path : String) (content : ByteArray), paths path →
    Satisfies R (.change refused fun t => t.write? path content)

/-- A downloader that such a relation holds across, where it stores at those
paths. -/
def AdmitsFetch (d : Downloader) (R : Bool → World → World → Prop) (paths : String → Prop) :
    Prop :=
  ∀ url path, paths path → Satisfies R (d.run url path)

section
variable {R : Bool → World → World → Prop} {paths : String → Prop} {d : Downloader}

/-- To hold across an action is a property that is carried from the steps to
the parts. -/
theorem Admits.carries (h : Admits R paths) :
    Carries (fun _ _ a => Satisfies R a) (fun _ => True) paths where
  ofExcept := .ofExcept h.composable
  bind := .bind h.composable
  mapError f _ ha := Satisfies.mapError f ha
  print := h.print
  makeDirs refused path _ := h.makeDirs refused path
  write := h.write
  parent _ _ := trivial

theorem Admits.writeText (h : Admits R paths) {path : String} (text : String)
    (hpath : paths path) : Satisfies R (writeText path text) :=
  h.carries.writeText text hpath

theorem Admits.writeDocuments (h : Admits R paths) (dir : String)
    (docs : List (String × RoleDocument)) (hdocs : ∀ doc ∈ docs, paths (Path.join dir doc.1)) :
    Satisfies R (writeDocuments dir docs) :=
  h.carries.writeDocuments dir docs hdocs

theorem Admits.fetchAll (h : Admits R paths) (hd : AdmitsFetch d R paths) {fs : List Fetch}
    (hfs : ∀ f ∈ fs, paths f.path) : Satisfies R (fetchAll d fs) :=
  h.carries.fetchAll hd hfs

theorem Admits.fetchSelection (h : Admits R paths) (hd : AdmitsFetch d R paths)
    {r : BuildRequest} {selection : Selection}
    (hfetch : r.settings.skipArtefacts = false → ∀ f ∈ fetches r selection, paths f.path) :
    Satisfies R (fetchSelection d r selection) :=
  h.carries.fetchSelection hd trivial trivial hfetch

theorem Admits.selinuxFor (h : Admits R paths) (hd : AdmitsFetch d R paths)
    {r : BuildRequest} {server : RoleDocument}
    (hrepository : server.selinuxEnabled = true → ∀ policy,
      SelinuxPolicy.ofVersion r.definition.cluster.version r.settings.sources = .ok policy →
        paths (Layout.repositoryFile r.output policy.repositoryFile))
    (hkey : server.selinuxEnabled = true → r.settings.skipArtefacts = false → paths (keyPath r)) :
    Satisfies R (selinuxFor d r server) :=
  h.carries.selinuxFor hd trivial hrepository hkey

theorem Admits.writeVipManifest (h : Admits R paths) {output : String}
    {addresses : Option VirtualAddresses}
    (hmanifest : addresses.isSome = true → paths (Layout.vipManifest output)) :
    Satisfies R (writeVipManifest output addresses) :=
  h.carries.writeVipManifest hmanifest

end

/-! ## §4. Requests. -/

/-- Nothing was requested. -/
def Quiet : Bool → World → World → Prop :=
  fun _ w w' => w'.requests = w.requests ∧ w'.arrived = w.arrived

theorem admits_quiet (paths : String → Prop) : Admits Quiet paths where
  composable := ⟨fun _ _ => ⟨rfl, rfl⟩, fun h h' => ⟨h'.1.trans h.1, h'.2.trans h.2⟩⟩
  print _ _ := ⟨rfl, rfl⟩
  makeDirs _ _ _ := ⟨rfl, rfl⟩
  write refused path content _ w := by
    rw [runIn_change]
    split <;> exact ⟨rfl, rfl⟩

/-- A request is the plan of itself. -/
theorem run_follows (d : Downloader) (url path : String) : Follows [url] (d.run url path) := by
  intro w
  refine ⟨[url], [(d.fetch w.requests url path w.tree).1.isOk], rfl, rfl, ?_⟩
  exact ⟨List.prefix_refl _, fun _ => rfl, rfl, by simp, fun hok b hb => by
    rw [List.mem_singleton.1 hb]
    exact hok⟩

/-- Files are requested one after the other. -/
theorem fetchAll_follows (d : Downloader) (fs : List Fetch) :
    Follows (fs.map (·.url)) (fetchAll d fs) := by
  induction fs with
  | nil => exact .of_quiet fun w => ⟨rfl, rfl⟩
  | cons f fs ih =>
      rw [List.map_cons, ← List.singleton_append]
      exact ((run_follows d f.url f.path).mapError _).bind fun _ => ih

/-- The requests for the artefacts of a build. -/
def artefactPlan (r : BuildRequest) (selection : Selection) : List String :=
  if r.settings.skipArtefacts then [] else (fetches r selection).map (·.url)

/-- The artefacts of a build are requested one after the other. -/
theorem fetchSelection_follows (d : Downloader) (r : BuildRequest) (selection : Selection) :
    Follows (artefactPlan r selection) (fetchSelection d r selection) := by
  unfold Build.fetchSelection artefactPlan
  split
  next => exact .of_quiet fun w => ⟨rfl, rfl⟩
  next =>
    have hquiet := admits_quiet fun _ => True
    -- making the two directories requests nothing, so the plan is that of the fetching
    have hartefacts : Follows ((fetches r selection).map (·.url))
        (fetchArtefacts d selection r.definition.cluster.version r.settings.sources
          (Layout.kubernetes r.output)) := by
      rw [← List.append_nil ((fetches r selection).map _)]
      refine Follows.bind (p := []) (.of_quiet (hquiet.makeDirs _ _)) fun _ => ?_
      refine Follows.bind (p := []) (.of_quiet (hquiet.makeDirs _ _)) fun _ => ?_
      exact (fetchAll_follows d _).bind fun _ => .of_quiet fun w => ⟨rfl, rfl⟩
    rw [← List.append_nil ((fetches r selection).map _)]
    refine Follows.bind (p := []) (.of_quiet (hquiet.print _)) fun _ => ?_
    exact (hartefacts.mapError _).bind fun _ =>
      .of_quiet (.bind hquiet.composable (hquiet.print _) fun _ => .pure hquiet.composable _)

/-- The request for the signing key of a build. -/
def keyPlan (r : BuildRequest) (server : RoleDocument) : List String :=
  if server.selinuxEnabled && !r.settings.skipArtefacts then [r.settings.sources.selinuxSigningKey]
  else []

/-- The signing key is requested if the servers ask for the policy. -/
theorem selinuxFor_follows (d : Downloader) (r : BuildRequest) (server : RoleDocument) :
    Follows (keyPlan r server) (selinuxFor d r server) := by
  unfold Build.selinuxFor keyPlan
  have hquiet := admits_quiet fun _ => True
  cases hserver : server.selinuxEnabled with
  | false => exact .of_quiet fun w => ⟨rfl, rfl⟩
  | true =>
      rw [if_pos rfl, Bool.true_and]
      apply Follows.map
      unfold Build.prepareSelinux
      have hreport : ∀ (policy : SelinuxPolicy) (key : Option String), Follows []
          (Action.print ("✓ SELinux policy package: " ++ policy.package) >>= fun _ =>
            (pure (policy, (⟨policy.package, Layout.repositoryFileInScript policy.repositoryFile,
              key⟩ : SelinuxInstall)) : Action Trouble _)) := fun policy key =>
        .of_quiet (.bind hquiet.composable (hquiet.print _) fun _ => .pure hquiet.composable _)
      refine Follows.bind (p := []) (.of_quiet ?_) fun policy => ?_
      · exact (Satisfies.ofExcept hquiet.composable _).mapError _
      refine Follows.bind (p := []) (.of_quiet (hquiet.writeText _ trivial)) fun _ => ?_
      cases hskip : r.settings.skipArtefacts with
      | true =>
          exact Follows.bind (p := []) (q := []) (.of_quiet fun w => ⟨rfl, rfl⟩) (hreport policy)
      | false =>
          -- the key is the whole plan: the report after it requests nothing
          show Follows ([r.settings.sources.selinuxSigningKey] ++ []) _
          apply Follows.bind
          · apply Follows.mapError
            unfold fetchSigningKey
            refine Follows.bind (p := []) (.of_quiet (hquiet.makeDirs _ _)) fun _ => ?_
            rw [← List.append_nil [_]]
            exact ((run_follows d _ _).mapError _).bind fun _ => .of_quiet fun w => ⟨rfl, rfl⟩
          · intro _
            exact Follows.bind (p := []) (q := []) (.of_quiet fun w => ⟨rfl, rfl⟩) (hreport policy)

/-- What a build requests: the install script, the files to install from, the
image bundles, and the signing key if the servers ask for the SELinux policy;
nothing if artefacts are skipped. -/
def requestPlan (r : BuildRequest) (selection : Selection) (server : RoleDocument) : List String :=
  let url := r.settings.sources.artefactUrl selection.distribution r.definition.cluster.version
  if r.settings.skipArtefacts then []
  else r.settings.sources.installScript selection.distribution
    :: selection.install.map url ++ selection.images.map url
    ++ (if server.selinuxEnabled then [r.settings.sources.selinuxSigningKey] else [])

theorem requestPlan_eq (r : BuildRequest) (selection : Selection) (server : RoleDocument) :
    requestPlan r selection server = artefactPlan r selection ++ keyPlan r server := by
  unfold requestPlan artefactPlan keyPlan
  cases r.settings.skipArtefacts with
  | true => simp
  | false => simp [fetches, fetchPlan, Function.comp_def]

/-- After its documents are written a build requests what its plan says. -/
theorem finish_follows (d : Downloader) (r : BuildRequest) (distribution : Distribution)
    (cluster : Cluster) (documents : List String) (selection : Selection) :
    Follows (requestPlan r selection cluster.serverDocument)
      (finish d r distribution cluster documents selection) := by
  have hquiet := admits_quiet fun _ => True
  rw [requestPlan_eq]
  refine (fetchSelection_follows d r selection).bind fun _ => ?_
  rw [← List.append_nil (keyPlan _ _)]
  refine (selinuxFor_follows d r cluster.serverDocument).bind fun _ => ?_
  apply Follows.of_quiet
  apply Satisfies.bind hquiet.composable (hquiet.writeVipManifest fun _ => trivial)
  intro _
  apply Satisfies.bind hquiet.composable
  · apply Satisfies.bind hquiet.composable (hquiet.writeText _ trivial)
    intro _ w
    rw [runIn_change]
    split <;> exact ⟨rfl, rfl⟩
  · exact fun _ => .pure hquiet.composable _

/-! ## §5. The course of a build. -/

/-- The world in which the role documents of a cluster are written. -/
def warned (tree : FileTree) (cluster : Cluster) : World :=
  { World.ofTree tree with printed := cluster.warnings.map Warning.line }

/-- What a build of an image that has a version asks: the distribution, the
cluster, whether its documents can be written, and the artefacts. -/
theorem runVersioned_eq (d : Downloader) (r : BuildRequest) (draw : Draw) (tree : FileTree) :
    (runVersioned d r draw).runIn (World.ofTree tree)
      = match Distribution.ofVersion r.definition.cluster.version with
        | .error f => (.error (.ofFailure f), World.ofTree tree)
        | .ok distribution =>
            match clusterFor tree r.definition.cluster r.configDir r.settings.cluster draw with
            | .error f => (.error (failureIn .derivingCluster f), World.ofTree tree)
            | .ok cluster =>
                match (writeDocuments (Layout.documents r.output) cluster.documents).runIn
                    (warned tree cluster) with
                | (.error t, w) => (.error t, w)
                | (.ok documents, w) =>
                    match select distribution r.definition.arch cluster.serverDocument with
                    | .error f => (.error (failureIn .selectingArtefacts f), w)
                    | .ok selection =>
                        (finish d r distribution cluster documents selection).runIn w := by
  unfold runVersioned
  cases Distribution.ofVersion r.definition.cluster.version with
  | error f => rfl
  | ok distribution =>
      rw [mapError_ofExcept_ok, pure_bind]
      unfold runFor
      rw [runIn_bind_of_ok (runIn_tree _), World.tree_ofTree]
      cases clusterFor tree r.definition.cluster r.configDir r.settings.cluster draw with
      | error f => rfl
      | ok cluster =>
          rw [mapError_ofExcept_ok, pure_bind, runIn_bind_of_ok (runIn_printAll _ _)]
          -- nothing was printed before the warnings
          have hwarned : ({ World.ofTree tree with
              printed := (World.ofTree tree).printed ++ cluster.warnings.map Warning.line } : World)
              = warned tree cluster := rfl
          rw [hwarned]
          rcases hdocuments : (writeDocuments (Layout.documents r.output) cluster.documents).runIn
            (warned tree cluster) with ⟨t | documents, w⟩
          · simp only [runIn_bind_of_error hdocuments, hdocuments]
          · simp only [runIn_bind_of_ok hdocuments, hdocuments]
            cases select distribution r.definition.arch cluster.serverDocument with
            | error f => exact runIn_bind_of_error rfl
            | ok selection => simp only [mapError_ofExcept_ok, pure_bind]

/-- How a build that starts with a file tree ends: with one of four failures
before anything is requested, or as its last part ends. -/
inductive Course (d : Downloader) (r : BuildRequest) (draw : Draw) (tree : FileTree) :
    Except Trouble BuildReport × World → Prop where
  /-- The distribution is unknown. -/
  | unknown {f : Failure} (t : Trouble)
      (hdistribution : Distribution.ofVersion r.definition.cluster.version = .error f) :
      Course d r draw tree (.error t, World.ofTree tree)
  /-- The cluster cannot be derived. -/
  | underived {distribution : Distribution} {f : Failure} (t : Trouble)
      (hdistribution : Distribution.ofVersion r.definition.cluster.version = .ok distribution)
      (hcluster : clusterFor tree r.definition.cluster r.configDir r.settings.cluster draw
        = .error f) :
      Course d r draw tree (.error t, World.ofTree tree)
  /-- The role documents cannot be written. -/
  | unwritten {distribution : Distribution} {cluster : Cluster} {t : Trouble} {w : World}
      (hdistribution : Distribution.ofVersion r.definition.cluster.version = .ok distribution)
      (hcluster : clusterFor tree r.definition.cluster r.configDir r.settings.cluster draw
        = .ok cluster)
      (hdocuments : (writeDocuments (Layout.documents r.output) cluster.documents).runIn
        (warned tree cluster) = (.error t, w)) :
      Course d r draw tree (.error t, w)
  /-- The artefacts cannot be selected. -/
  | unselected {distribution : Distribution} {cluster : Cluster} {documents : List String}
      {f : Failure} {w : World} (t : Trouble)
      (hdistribution : Distribution.ofVersion r.definition.cluster.version = .ok distribution)
      (hcluster : clusterFor tree r.definition.cluster r.configDir r.settings.cluster draw
        = .ok cluster)
      (hdocuments : (writeDocuments (Layout.documents r.output) cluster.documents).runIn
        (warned tree cluster) = (.ok documents, w))
      (hselection : select distribution r.definition.arch cluster.serverDocument = .error f) :
      Course d r draw tree (.error t, w)
  /-- The last part decides. -/
  | finished {distribution : Distribution} {cluster : Cluster} {documents : List String}
      {selection : Selection} {w : World}
      (hdistribution : Distribution.ofVersion r.definition.cluster.version = .ok distribution)
      (hcluster : clusterFor tree r.definition.cluster r.configDir r.settings.cluster draw
        = .ok cluster)
      (hdocuments : (writeDocuments (Layout.documents r.output) cluster.documents).runIn
        (warned tree cluster) = (.ok documents, w))
      (hselection : select distribution r.definition.arch cluster.serverDocument = .ok selection) :
      Course d r draw tree ((finish d r distribution cluster documents selection).runIn w)

/-- A build takes its course. -/
theorem runVersioned_course (d : Downloader) (r : BuildRequest) (draw : Draw) (tree : FileTree) :
    Course d r draw tree ((runVersioned d r draw).runIn (World.ofTree tree)) := by
  rw [runVersioned_eq]
  cases hdistribution : Distribution.ofVersion r.definition.cluster.version with
  | error f => exact .unknown _ hdistribution
  | ok distribution =>
      dsimp only
      cases hcluster : clusterFor tree r.definition.cluster r.configDir r.settings.cluster draw with
      | error f => exact .underived _ hdistribution hcluster
      | ok cluster =>
          dsimp only
          rcases hdocuments : (writeDocuments (Layout.documents r.output) cluster.documents).runIn
            (warned tree cluster) with ⟨t | documents, w⟩
          · exact .unwritten hdistribution hcluster hdocuments
          · dsimp only
            cases hselection : select distribution r.definition.arch cluster.serverDocument with
            | error f => exact .unselected _ hdistribution hcluster hdocuments hselection
            | ok selection => exact .finished hdistribution hcluster hdocuments hselection

/-- The line about how a build ended. -/
def announcement : Except Trouble BuildReport → String
  | .ok report => "✓ Kubernetes configured: " ++ report.script
  | .error t => "✗ Configuring Kubernetes failed: " ++ t.message

/-- A build of an image that has a version ends as its versioned part does and
prints one line more. -/
theorem run_announced (d : Downloader) {r : BuildRequest} (draw : Draw)
    (hversion : r.definition.cluster.version ≠ "") (w : World) :
    (run d r draw).runIn w
      = (((runVersioned d r draw).runIn w).1.map some,
          { ((runVersioned d r draw).runIn w).2 with
            printed := ((runVersioned d r draw).runIn w).2.printed
              ++ [announcement ((runVersioned d r draw).runIn w).1] }) := by
  unfold run announced
  rw [if_neg hversion, map_eq_bind, runIn_bind, runIn_ofFunction]
  rcases (runVersioned d r draw).runIn w with ⟨t | report, v⟩
  · rfl
  · rfl

/-- What is printed aside, it ends as its versioned part does. -/
theorem run_versioned (d : Downloader) {r : BuildRequest} (draw : Draw)
    (hversion : r.definition.cluster.version ≠ "") (w : World) :
    ∃ printed, (run d r draw).runIn w
      = (((runVersioned d r draw).runIn w).1.map some,
          { ((runVersioned d r draw).runIn w).2 with printed := printed }) :=
  ⟨_, run_announced d draw hversion w⟩

end ClusterBoot.Build
