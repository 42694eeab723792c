/-
  ClusterBoot.Proofs.Preview
  ────────────────────────────────
  **A PREVIEW SAYS WHAT THE BUILD DOES.**

  A preview goes through the derivation once more, in code of its own, so
  nothing but a theorem keeps the two together.  `preview_agrees` takes both
  apart at the same questions (`run_eq`, `runVersioned_eq`): if the build
  succeeds the preview lists what it wrote, fetched and prepared, and if the
  preview fails the build fails for the same reason, or earlier.
-/
import ClusterBoot.Proofs.BuildSteps
import ClusterBoot.Show

namespace ClusterBoot.Show

open ClusterBoot.Action
open ClusterBoot.Path (target)
open Build (clusterFor failureIn warned writeDocuments Fetched)

/-! ## §1. What a preview prints. -/

/-- What is printed by a preview that succeeds. -/
structure Preview where
  /-- The release, its distribution and the architecture. -/
  title : String
  /-- The node that initialises the cluster, if there are several. -/
  initialiser : Option String
  /-- What is odd about the cluster. -/
  warnings : List Warning
  /-- The names and the texts of the role documents. -/
  documents : List (String × String)
  /-- The install script and the files that it installs from. -/
  install : List String
  /-- The image bundles. -/
  images : List String
  /-- The SELinux policy, if there is one. -/
  selinux : Option SelinuxPolicy

/-- The lines of a preview, in order. -/
def Preview.lines (p : Preview) : List String :=
  [p.title]
    ++ p.initialiser.toList.map ("  Initialiser: " ++ ·)
    ++ p.warnings.map Warning.line
    ++ [""]
    ++ p.documents.flatMap (fun doc => ["# " ++ doc.1, doc.2])
    ++ ["Install artefacts:"] ++ p.install.map ("  " ++ ·)
    ++ ["Image artefacts:"] ++ p.images.map ("  " ++ ·)
    ++ p.selinux.toList.map fun s =>
      "SELinux: " ++ s.package ++ " from " ++ s.url ++ " (priority " ++ toString s.priority ++ ")"

/-- What a build would show. -/
def previewOf (r : BuildRequest) (d : Distribution) (cluster : Cluster) (selection : Selection) :
    Preview where
  title := "Kubernetes " ++ r.definition.cluster.version ++ " (" ++ d.name ++ ", "
    ++ r.definition.arch.name ++ ")"
  initialiser := if cluster.isMultiNode then some cluster.initialiser else none
  warnings := cluster.warnings
  documents := cluster.documents.map fun doc => (doc.1, doc.2.toText)
  install := selection.installScript :: selection.install
  images := selection.images
  selinux := Build.policyFor r d cluster.serverDocument

/-- The preview of a build. -/
def ofBuild (r : BuildRequest) : ShowRequest := ⟨r.definition, r.configDir, r.settings⟩

/-- The last line of a preview is about the policy. -/
theorem policy_lines (r : BuildRequest) {distribution : Distribution} (server : RoleDocument)
    (hdistribution : Distribution.ofVersion r.definition.cluster.version = .ok distribution)
    (w : World) :
    (if server.selinuxEnabled then do
        let policy ← .mapError Trouble.ofFailure
          (.ofExcept (SelinuxPolicy.ofVersion r.definition.cluster.version r.settings.sources))
        .print (policyLine policy)
      else pure () : Action Trouble Unit).runIn w
      = (.ok (), { w with
          printed := w.printed ++ (Build.policyFor r distribution server).toList.map policyLine }) := by
  unfold Build.policyFor
  cases server.selinuxEnabled with
  | false =>
      rw [if_neg (by simp), if_neg (by simp), Option.toList_none, List.map_nil, List.append_nil]
      rfl
  | true =>
      have hpolicy : SelinuxPolicy.ofVersion r.definition.cluster.version r.settings.sources
          = .ok (.ofDistribution distribution r.settings.sources) := by
        rw [SelinuxPolicy.ofVersion, hdistribution]
        rfl
      rw [if_pos rfl, if_pos rfl, hpolicy, mapError_ofExcept_ok, pure_bind]
      rfl

/-- The lines of a preview are printed in four parts. -/
theorem lines_previewOf (r : BuildRequest) (d : Distribution) (cluster : Cluster)
    (selection : Selection) :
    (previewOf r d cluster selection).lines
      = headLines r.definition d cluster ++ cluster.documents.flatMap documentLines
        ++ selectionLines selection
        ++ (Build.policyFor r d cluster.serverDocument).toList.map policyLine := by
  have hinitialiser : (if cluster.isMultiNode then ["  Initialiser: " ++ cluster.initialiser] else [])
      = (if cluster.isMultiNode then some cluster.initialiser else none).toList.map
        ("  Initialiser: " ++ ·) := by
    cases cluster.isMultiNode <;> rfl
  have hpolicy : (fun s : SelinuxPolicy => "SELinux: " ++ s.package ++ " from " ++ s.url
      ++ " (priority " ++ toString s.priority ++ ")") = policyLine := rfl
  have hdocuments : (cluster.documents.map fun doc => (doc.1, doc.2.toText)).flatMap
      (fun doc => ["# " ++ doc.1, doc.2]) = cluster.documents.flatMap documentLines := by
    rw [List.flatMap_map]
    rfl
  unfold Preview.lines previewOf headLines selectionLines
  simp only [hinitialiser, hpolicy, hdocuments, List.map_cons, List.append_assoc, List.cons_append,
    List.nil_append]

/-- What a preview does, question by question. -/
theorem run_eq (r : BuildRequest) (draw : Draw) (tree : FileTree) :
    (run (ofBuild r) draw).runIn (World.ofTree tree)
      = match Distribution.ofVersion r.definition.cluster.version with
        | .error f => (.error (.ofFailure f), World.ofTree tree)
        | .ok distribution =>
            match clusterFor tree r.definition.cluster r.configDir r.settings.cluster draw with
            | .error f => (.error (failureIn .derivingCluster f), World.ofTree tree)
            | .ok cluster =>
                match select distribution r.definition.arch cluster.serverDocument with
                | .error f =>
                    (.error (.ofFailure f), { World.ofTree tree with
                      printed := headLines r.definition distribution cluster
                        ++ cluster.documents.flatMap documentLines })
                | .ok selection =>
                    (.ok (), { World.ofTree tree with
                      printed := (previewOf r distribution cluster selection).lines }) := by
  unfold run ofBuild
  dsimp only
  cases hdistribution : Distribution.ofVersion r.definition.cluster.version with
  | error f => exact runIn_bind_of_error rfl
  | ok distribution =>
      rw [mapError_ofExcept_ok, pure_bind, runIn_bind_of_ok (runIn_tree _), World.tree_ofTree]
      cases clusterFor tree r.definition.cluster r.configDir r.settings.cluster draw with
      | error f => exact runIn_bind_of_error rfl
      | ok cluster =>
          rw [mapError_ofExcept_ok, pure_bind, runIn_bind_of_ok (runIn_printAll _ _),
            runIn_bind_of_ok (runIn_printAll _ _)]
          dsimp only
          cases select distribution r.definition.arch cluster.serverDocument with
          | error f => exact runIn_bind_of_error rfl
          | ok selection =>
              rw [mapError_ofExcept_ok, pure_bind, runIn_bind_of_ok (runIn_printAll _ _),
                policy_lines r cluster.serverDocument hdistribution]
              dsimp only
              rw [lines_previewOf]
              rfl

/-! ## §2. What a preview and a build have to do with each other. -/

/-- A build that ended in the world `built` with a report did what a preview
says. -/
structure Preview.Describes (p : Preview) (d : Downloader) (r : BuildRequest)
    (report : BuildReport) (built : World) : Prop where
  /-- The build prints the same warnings, and then the role documents that it
  writes, in the same order. -/
  printed : p.warnings.map Warning.line
    ++ p.documents.map (fun doc => "✓ Wrote " ++ Path.join (Layout.documents r.output) doc.1)
    <+: built.printed
  /-- It writes no other role documents. -/
  documents : report.documents
    = p.documents.map fun doc => Path.join (Layout.documents r.output) doc.1
  /-- Each of them holds the text that is shown. -/
  texts : ∀ doc ∈ p.documents, ∃ executable,
    built.tree.fileAt (target (Path.join (Layout.documents r.output) doc.1))
      = some (doc.2.toUTF8, executable)
  /-- Unless artefacts are skipped, those that are listed are fetched in this
  order, each into its directory, and nothing else is requested but the key of
  the policy. -/
  artefacts : r.settings.skipArtefacts = false → ∃ fetched start stop,
    Fetched d fetched start stop
      ∧ start.requests = []
      ∧ fetched.map (·.path)
        = p.install.map (Path.join (Path.join (Layout.kubernetes r.output) Layout.installDir))
          ++ p.images.map (Path.join (Path.join (Layout.kubernetes r.output) Layout.imagesDir))
      ∧ built.requests = stop.requests
        ++ (if p.selinux.isSome then [r.settings.sources.selinuxSigningKey] else [])
  /-- If a success of the downloader stores its file, they are there at the
  end. -/
  stored : d.Exact → r.settings.skipArtefacts = false →
    (∀ name ∈ p.install, Build.IsStored r.output built.tree Layout.installDir name)
      ∧ ∀ name ∈ p.images, Build.IsStored r.output built.tree Layout.imagesDir name
  /-- The policy is the one that is prepared. -/
  selinux : p.selinux = report.selinux

/-- Two troubles have the same cause, which is a failure to configure the
cluster. -/
def SameFailure (t t' : Trouble) : Prop :=
  ∃ f, t.cause = .failure f ∧ t'.cause = .failure f

/-- The build cannot write a role document. -/
def Unwritten (r : BuildRequest) (draw : Draw) (tree : FileTree) (t : Trouble) : Prop :=
  ∃ cluster, clusterFor tree r.definition.cluster r.configDir r.settings.cluster draw = .ok cluster
    ∧ ((writeDocuments (Layout.documents r.output) cluster.documents).runIn
      (warned tree cluster)).1 = .error t

/-- What a build that ended as `built` and its preview that ended as `seen`
have to do with each other, if both started with the files of `tree`. -/
structure Agreement (d : Downloader) (r : BuildRequest) (draw : Draw) (tree : FileTree)
    (built : Except Trouble (Option BuildReport) × World) (seen : Except Trouble Unit × World) :
    Prop where
  /-- If the build succeeds, so does the preview, and says what the build
  did. -/
  described : ∀ result, built.1 = .ok result → ∃ report, result = some report
    ∧ seen.1 = .ok () ∧ ∃ p : Preview, seen.2.printed = p.lines ∧ p.Describes d r report built.2
  /-- If the preview fails, so does the build, without a request and for the
  same reason, unless a role document cannot be written. -/
  failed : ∀ t, seen.1 = .error t → built.2.requests = []
    ∧ ∃ t', built.1 = .error t' ∧ (SameFailure t t' ∨ Unwritten r draw tree t')
  /-- The preview changes no file and requests nothing. -/
  unchanged : seen.2.tree = tree ∧ seen.2.requests = []

/-! ## §3. Agreement. -/

section
variable {d : Downloader} {r : BuildRequest} {draw : Draw} {tree : FileTree}
  {distribution : Distribution} {cluster : Cluster} {selection : Selection}

/-- Where the files of a build are fetched to. -/
theorem fetches_path (r : BuildRequest) (selection : Selection) :
    (Build.fetches r selection).map (·.path)
      = (selection.installScript :: selection.install).map
          (Path.join (Path.join (Layout.kubernetes r.output) Layout.installDir))
        ++ selection.images.map
          (Path.join (Path.join (Layout.kubernetes r.output) Layout.imagesDir)) := by
  simp [Build.fetches, fetchPlan, Layout.ArtefactPaths.under, Function.comp_def]

/-- A build whose last part succeeds requested its whole plan. -/
theorem requests_finished {documents : List String} {report : BuildReport} {w w' : World}
    (hquiet : w.requests = [] ∧ w.arrived = [])
    (hfinish : (Build.finish d r distribution cluster documents selection).runIn w
      = (.ok report, w')) :
    w'.requests = Build.requestPlan r selection cluster.serverDocument := by
  have hprogress : Progress (Build.requestPlan r selection cluster.serverDocument)
      ((Build.finish d r distribution cluster documents selection).runIn w).1.isOk _ _ :=
    Build.finish_progress hquiet
  rw [hfinish] at hprogress
  exact hprogress.whole rfl

/-- A build whose last part succeeds did what its preview says. -/
theorem previewOf_describes (hd : d.Confined) {documents : List String} {report : BuildReport}
    {w w' : World}
    (hdistribution : Distribution.ofVersion r.definition.cluster.version = .ok distribution)
    (hdocuments : (writeDocuments (Layout.documents r.output) cluster.documents).runIn
      (warned tree cluster) = (.ok documents, w))
    (hselection : select distribution r.definition.arch cluster.serverDocument = .ok selection)
    (hfinish : (Build.finish d r distribution cluster documents selection).runIn w
      = (.ok report, w')) :
    (previewOf r distribution cluster selection).Describes d r report w' := by
  have hnames := select_names hselection
  obtain ⟨hpaths, hwrote⟩ := Build.writeDocuments_reports hdocuments
  obtain ⟨hreported, hselinux, hfetched⟩ := Build.finish_reports hdistribution hfinish
  have hquiet := Build.writeDocuments_quiet hdocuments
  have hstored := Build.writeDocuments_stores Build.isArtefact_document
    (Build.documents_nodup cluster) hdocuments
  refine {
    printed := ?_
    documents := ?_
    texts := ?_
    artefacts := fun hskip => ?_
    stored := fun hexact => (Build.finish_ok hexact hdistribution hnames hfinish).artefacts
    selinux := hselinux.symm }
  · -- what the documents printed is not taken back
    have hprefix : w.printed <+: w'.printed := (Build.finish_prints hdistribution).of_ok hfinish
    rw [hwrote] at hprefix
    unfold previewOf
    simpa [warned, Function.comp_def] using hprefix
  · rw [hreported, hpaths]
    unfold previewOf
    simp [Function.comp_def]
  · intro shown hshown
    obtain ⟨doc, hdoc, rfl⟩ := List.mem_map.1 hshown
    obtain ⟨-, executable, hfile⟩ := hstored doc hdoc
    have hleaves := (Build.finish_leaves hd hdistribution hnames
      (Build.isArtefact_document doc hdoc).isName).of_ok hfinish
    exact ⟨executable, hleaves.fileAt_eq.trans hfile⟩
  · obtain ⟨start, stop, hfetched, hstart⟩ := hfetched hskip
    refine ⟨_, start, stop, hfetched, hstart.trans hquiet.1, fetches_path r selection, ?_⟩
    rw [hfetched.requests_eq, hstart, hquiet.1, requests_finished hquiet hfinish,
      Build.requestPlan_eq, Build.artefactPlan, if_neg (by simp [hskip]), Build.keyPlan, hskip]
    unfold previewOf Build.policyFor
    simp [apply_ite]

/-- A line more is printed at the end of a build. -/
theorem Preview.Describes.print {p : Preview} {report : BuildReport} {built : World}
    (h : p.Describes d r report built) (line : String) :
    p.Describes d r report { built with printed := built.printed ++ [line] } :=
  ⟨h.printed.trans (List.prefix_append _ _), h.documents, h.texts, h.artefacts, h.stored, h.selinux⟩

/-- A build that fails without a request agrees with a preview that fails for
the same reason, if it fails. -/
theorem Agreement.of_failure {w : World} {t' : Trouble} {seen : Except Trouble Unit}
    (printed : List String) (hrequests : w.requests = [])
    (hsame : ∀ t, seen = .error t → SameFailure t t' ∨ Unwritten r draw tree t') :
    Agreement d r draw tree (.error t', w) (seen, { World.ofTree tree with printed := printed }) where
  described _ h := nomatch h
  failed t h := ⟨hrequests, t', rfl, hsame t h⟩
  unchanged := ⟨rfl, rfl⟩

/-- **A preview and a build agree.**  The downloader may be any that is
confined. -/
theorem preview_agrees (hd : d.Confined) (hversion : r.definition.cluster.version ≠ "")
    (draw : Draw) (tree : FileTree) :
    Agreement d r draw tree ((Build.run d r draw).runIn (World.ofTree tree))
      ((run (ofBuild r) draw).runIn (World.ofTree tree)) := by
  rw [Build.run_announced d draw hversion, run_eq, Build.runVersioned_eq]
  cases hdistribution : Distribution.ofVersion r.definition.cluster.version with
  | error f =>
      refine .of_failure _ rfl ?_
      rintro t ⟨⟩
      exact .inl ⟨f, rfl, rfl⟩
  | ok distribution =>
      dsimp only
      cases hcluster : clusterFor tree r.definition.cluster r.configDir r.settings.cluster draw with
      | error f =>
          refine .of_failure _ rfl ?_
          rintro t ⟨⟩
          exact .inl ⟨f, rfl, rfl⟩
      | ok cluster =>
          dsimp only
          rcases hdocuments : (writeDocuments (Layout.documents r.output) cluster.documents).runIn
            (warned tree cluster) with ⟨t' | documents, w⟩
          · have hquiet := Build.writeDocuments_quiet hdocuments
            have hunwritten : Unwritten r draw tree t' := ⟨cluster, hcluster, by rw [hdocuments]⟩
            -- the preview goes on to the artefacts, which may or may not be selected
            cases select distribution r.definition.arch cluster.serverDocument with
            | error f => exact .of_failure _ hquiet.1 fun _ _ => .inr hunwritten
            | ok selection => exact .of_failure _ hquiet.1 fun _ _ => .inr hunwritten
          · have hquiet := Build.writeDocuments_quiet hdocuments
            dsimp only
            cases hselection : select distribution r.definition.arch cluster.serverDocument with
            | error f =>
                refine .of_failure _ hquiet.1 ?_
                rintro t ⟨⟩
                exact .inl ⟨f, rfl, rfl⟩
            | ok selection =>
                dsimp only
                rcases hfinish : (Build.finish d r distribution cluster documents selection).runIn w
                  with ⟨t' | report, w'⟩
                -- beyond the selection only the build can fail
                · exact ⟨fun _ h => (nomatch h), fun _ h => (nomatch h), rfl, rfl⟩
                · have hdescribes := previewOf_describes hd hdistribution hdocuments hselection
                    hfinish
                  exact {
                    described := fun result h =>
                      ⟨report, (Except.ok.inj h).symm, rfl, _, rfl, hdescribes.print _⟩
                    failed := fun _ h => nomatch h
                    unchanged := ⟨rfl, rfl⟩ }

end

/-- A single server that asks for the SELinux policy. -/
theorem preview_agrees_selinux :
    let d := Downloader.rehearsal none
    let r : BuildRequest :=
      ⟨⟨.x86_64, "v1.30.3+k3s1", .empty, [⟨"a", .server, false⟩]⟩, "config", "out", .default⟩
    let draw : Draw := Vector.replicate 32 7
    let tree : FileTree := ⟨[
      (["config"], .directory),
      (["config", "kubernetes"], .directory),
      (["config", "kubernetes", "config"], .directory),
      (["config", "kubernetes", "config", "server.yaml"],
        .file "selinux: true\n".toUTF8 false)]⟩
    let built := (Build.run d r draw).runIn (World.ofTree tree)
    let seen := (run (ofBuild r) draw).runIn (World.ofTree tree)
    d.Confined ∧ r.definition.cluster.version ≠ "" ∧ Agreement d r draw tree built seen
      ∧ built.1.isOk = true
      ∧ seen.2.printed.getLast? = some
        "SELinux: k3s-selinux from https://rpm.rancher.io/k3s/stable/common/slemicro/noarch (priority 99)" := by
  intro d r draw tree built seen
  have hd : d.Confined := Downloader.rehearsal_confined none
  have hversion : r.definition.cluster.version ≠ "" := by decide
  exact ⟨hd, hversion, preview_agrees hd hversion draw tree, by decide +kernel, by decide +kernel⟩

end ClusterBoot.Show
