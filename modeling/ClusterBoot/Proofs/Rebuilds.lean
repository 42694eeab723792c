/-
  ClusterBoot.Proofs.Rebuilds
  ────────────────────────────────
  **BUILDING AGAIN.**

  A build that succeeded can be repeated on the files that it left, if it
  touched nothing on the way to the user's documents (`run_again`): the
  repetition has the same result, requests the same and leaves the same files.
  Only another token can make a difference, and only in the role documents.

  What the user gave is read as it was (`run_untouched`, `clusterFor_congr`), so
  the cluster of the second build stands for that of the first one: it is equal
  but for the tokens (`StandsFor`).  All that is done with it repeats what was
  done before, with the files at the end of the first build as the goal
  (`run_repeats`).
-/
import ClusterBoot.Proofs.Repeats
import ClusterBoot.Proofs.Secrecy
import ClusterBoot.Proofs.SingleServers

namespace ClusterBoot

namespace Cluster

variable {definition : ClusterDefinition} {options : ClusterOptions} {draw draw' : Draw}

/-- The random bytes matter for a missing token only. -/
theorem serverOf_draw {S : RoleDocument}
    (h : S.token ≠ none ∨ options.token.token draw' = options.token.token draw) :
    serverOf definition options draw' S = serverOf definition options draw S := by
  have htoken : S.token.getD (options.token.token draw')
      = S.token.getD (options.token.token draw) := by
    rcases h with h | h
    · obtain ⟨token, htoken⟩ := Option.ne_none_iff_exists'.1 h
      rw [htoken, Option.getD_some, Option.getD_some]
    · rw [h]
  rw [serverOf_names, serverOf_names, htoken]

/-- They matter for the document of the servers only. -/
theorem derive_draw {server agent : Except Failure RoleDocument}
    (h : ∀ S, server = .ok S →
      serverOf definition options draw' S = serverOf definition options draw S) :
    derive definition options draw' server agent = derive definition options draw server agent := by
  cases server with
  | error failure => rfl
  | ok S => simp only [derive, bind, Except.bind, h S rfl]

end Cluster

namespace Build

open ClusterBoot.Action (Repeats)
open ClusterBoot.Path (target)
open RoleDocument (AgreeButToken)

/-! ## §1. What a build touches. -/

/-- A location that is touched by a build that leads from the files `before` to
the files `after`: one that it writes, or where it makes a directory. -/
def Touches (r : BuildRequest) (draw : Draw) (before after : FileTree) (l : Location) : Prop :=
  (∃ distribution cluster selection,
    Distribution.ofVersion r.definition.cluster.version = .ok distribution
      ∧ clusterFor before r.definition.cluster r.configDir r.settings.cluster draw = .ok cluster
      ∧ select distribution r.definition.arch cluster.serverDocument = .ok selection
      ∧ ∃ path ∈ writtenPaths r distribution cluster selection, target path = l)
  ∨ before.get? l = none ∧ after.get? l = some .directory

section
variable {d : Downloader} {r : BuildRequest} {draw draw' : Draw} {tree : FileTree}
  {distribution : Distribution} {cluster : Cluster} {selection : Selection}

/-- Everything is written below the output directory. -/
theorem writtenPaths_below
    (hselection : select distribution r.definition.arch cluster.serverDocument = .ok selection) :
    ∀ path ∈ writtenPaths r distribution cluster selection, target r.output <+: target path := by
  intro path hpath
  simp only [writtenPaths, List.mem_append, List.mem_map, List.mem_singleton] at hpath
  rcases hpath with (⟨doc, hdoc, rfl⟩ | hlater) | rfl
  · rw [Layout.documents,
      target_inKubernetes (by decide) (isName_roleFile _ (document_file doc hdoc))]
    exact List.prefix_append _ _
  · obtain ⟨sub, name, hsub, hname, -, rfl⟩ := laterPaths_sub (select_names hselection) path hlater
    rw [target_inKubernetes hsub hname]
    exact List.prefix_append _ _
  · rw [target_script]
    exact List.prefix_append _ _

/-- What was there and is touched is below the output directory. -/
theorem Touches.below {before after : FileTree} {l : Location}
    (h : Touches r draw before after l) (hpresent : before.get? l ≠ none) :
    target r.output <+: l := by
  rcases h with ⟨distribution, cluster, selection, -, -, hselection, path, hpath, rfl⟩ | ⟨hnone, -⟩
  · exact writtenPaths_below hselection path hpath
  · exact absurd hnone hpresent

/-- Once the artefacts are selected, it remains to write the role documents and
to finish. -/
theorem runVersioned_selected
    (hdistribution : Distribution.ofVersion r.definition.cluster.version = .ok distribution)
    (hcluster : clusterFor tree r.definition.cluster r.configDir r.settings.cluster draw
      = .ok cluster)
    (hselection : select distribution r.definition.arch cluster.serverDocument = .ok selection) :
    (runVersioned d r draw).runIn (World.ofTree tree)
      = (do
          let documents ← writeDocuments (Layout.documents r.output) cluster.documents
          finish d r distribution cluster documents selection).runIn (warned tree cluster) := by
  rw [runVersioned_eq]
  simp only [hdistribution, hcluster, hselection]
  rcases hdocuments : (writeDocuments (Layout.documents r.output) cluster.documents).runIn
    (warned tree cluster) with ⟨t | documents, w⟩
  · rw [Action.runIn_bind_of_error hdocuments]
  · rw [Action.runIn_bind_of_ok hdocuments]

/-- What a build does not touch is as it was. -/
theorem run_untouched (hd : d.Exact) {result : Option BuildReport} {w : World} {l : Location}
    (hrun : (run d r draw).runIn (World.ofTree tree) = (.ok result, w))
    (hl : ¬ Touches r draw tree w.tree l) : w.tree.get? l = tree.get? l := by
  by_cases hversion : r.definition.cluster.version = ""
  · rw [run, if_pos hversion] at hrun
    obtain ⟨-, rfl⟩ := Action.pure_ok hrun
    rfl
  obtain ⟨report, rfl⟩ := run_ok_report hversion (congrArg Prod.fst hrun)
  obtain ⟨distribution, cluster, selection, documents, w₀, w₁, hdistribution, hcluster, hselection,
    hdocuments, hfinish, htree⟩ := run_ok_course hrun
  rw [htree] at hl ⊢
  obtain ⟨hwritten, hmade⟩ := not_or.1 hl
  have hne : ∀ path ∈ writtenPaths r distribution cluster selection, target path ≠ l :=
    fun path hpath heq => hwritten ⟨distribution, cluster, selection, hdistribution, hcluster,
      hselection, path, hpath, heq⟩
  simp only [writtenPaths, List.mem_append, List.mem_map, List.mem_singleton] at hne
  have hbefore : FileTree.Keeps l tree w₀.tree :=
    ((admits_keepsPlace l).writeDocuments _ cluster.documents fun doc hdoc =>
      hne _ (.inl (.inl ⟨doc, hdoc, rfl⟩))).of_ok hdocuments rfl
  have hafter : FileTree.Keeps l w₀.tree w₁.tree :=
    (finish_ok hd hdistribution (select_names hselection) hfinish).elsewhere l
      (hne _ (.inr rfl)).symm fun path hpath => hne path (.inl (.inr hpath))
  -- neither half writes there, and no directory is made there
  exact (hbefore.trans hafter).resolve_right hmade

/-! ## §2. The cluster of a repetition. -/

/-- A document of the user is read as it was if nothing on the way to it
changed. -/
theorem loadUserDocument_congr {t u : FileTree} {configDir file : String}
    (h : ∀ l, Path.Passes (Layout.userDocument configDir file) l → u.get? l = t.get? l) :
    loadUserDocument u configDir file = loadUserDocument t configDir file := by
  rw [loadUserDocument, loadUserDocument, textAt, textAt, FileTree.read_congr h]

/-- The cluster is then derived from the same documents. -/
theorem clusterFor_congr {t u : FileTree} {definition : ClusterDefinition} {configDir : String}
    {options : ClusterOptions} (draw : Draw)
    (h : ∀ file ∈ userFiles, ∀ l, Path.Passes (Layout.userDocument configDir file) l →
      u.get? l = t.get? l) :
    clusterFor u definition configDir options draw
      = clusterFor t definition configDir options draw := by
  rw [clusterFor, clusterFor, loadUserDocument_congr (h _ (.head _)),
    loadUserDocument_congr (h _ (.tail _ (.head _)))]

/-- Why two builds on the same documents of the user have the same token. -/
inductive SameToken (r : BuildRequest) (tree : FileTree) (draw draw' : Draw) : Prop where
  /-- The user gives it to the servers. -/
  | given (S : RoleDocument)
      (hload : loadUserDocument tree r.configDir Cluster.serverFile = .ok S)
      (htoken : S.token ≠ none)
  /-- The placeholder stands in for it. -/
  | placeholder (hpolicy : r.settings.cluster.token = .placeholder)
  /-- The same bytes are drawn. -/
  | drawn (hdraw : draw' = draw)
  /-- A single node needs none. -/
  | single (hnodes : r.definition.cluster.nodes.length < 2)

/-- They have the same cluster. -/
theorem SameToken.clusterFor_eq (h : SameToken r tree draw draw') :
    clusterFor tree r.definition.cluster r.configDir r.settings.cluster draw'
      = clusterFor tree r.definition.cluster r.configDir r.settings.cluster draw := by
  rw [clusterFor, clusterFor]
  cases h with
  | given S hload htoken =>
      refine Cluster.derive_draw fun S' hload' => Cluster.serverOf_draw (.inl ?_)
      obtain rfl := Except.ok.inj (hload.symm.trans hload')
      exact htoken
  | placeholder hpolicy =>
      refine Cluster.derive_draw fun S _ => Cluster.serverOf_draw (.inr ?_)
      rw [hpolicy]
      rfl
  | drawn hdraw => rw [hdraw]
  | single hnodes =>
      have hsingle := Cluster.isMultiNode_of_lt hnodes
      rw [Cluster.derive_single _ _ _ _ hsingle, Cluster.derive_single _ _ _ _ hsingle]

/-! ## §3. Repetitions. -/

variable {R : Location → ByteArray → ByteArray → Prop} {content : String → ByteArray}
  {mode : String → Option Bool}

/-- A cluster in place of another one: it is equal but for the tokens, and `R`
says that its documents may be written in place of those of the other. -/
structure StandsFor (R : Location → ByteArray → ByteArray → Prop) (r : BuildRequest)
    (c c' : Cluster) : Prop where
  /-- Without tokens they are equal. -/
  withoutTokens : c'.withoutTokens = c.withoutTokens
  /-- The documents are those of the other one, or others in their place. -/
  documents : List.Forall₂ (fun doc doc' => doc'.1 = doc.1
    ∧ R (rolePlace r doc.1) doc.2.toText.toUTF8 doc'.2.toText.toUTF8) c.documents c'.documents

/-- A cluster stands for itself. -/
theorem StandsFor.refl (hR : ∀ l content, R l content content) (c : Cluster) :
    StandsFor R r c c :=
  ⟨rfl, List.forall₂_same.2 fun _ _ => ⟨rfl, hR _ _⟩⟩

/-- What is done with a cluster is repeated with one that stands for it. -/
theorem StandsFor.repeats {c c' : Cluster} (h : StandsFor R r c c') (hd : d.Determined content mode)
    (hR : ∀ l content, R l content content)
    (hdistribution : Distribution.ofVersion r.definition.cluster.version = .ok distribution) :
    Repeats R
      (do
        let documents ← writeDocuments (Layout.documents r.output) c.documents
        finish d r distribution c documents selection)
      (do
        let documents ← writeDocuments (Layout.documents r.output) c'.documents
        finish d r distribution c' documents selection) := by
  apply (Repeats.writeDocuments h.documents).bind
  intro documents
  rw [finish_congr h.withoutTokens]
  exact finish_repeats hd hR hdistribution c documents selection

/-- A build that succeeded is repeated on its own files with a cluster that
stands for the one it had. -/
theorem run_repeats (hd : d.Determined content mode) (hR : ∀ l content, R l content content)
    {result : Option BuildReport} {w : World}
    (hrun : (run d r draw).runIn (World.ofTree tree) = (.ok result, w))
    (hclusters : ∀ c,
      clusterFor tree r.definition.cluster r.configDir r.settings.cluster draw = .ok c →
      ∃ c', clusterFor w.tree r.definition.cluster r.configDir r.settings.cluster draw' = .ok c'
        ∧ StandsFor R r c c') :
    ∃ v, (run d r draw').runIn (World.ofTree w.tree) = (.ok result, v)
      ∧ World.Replays R w.tree w v := by
  by_cases hversion : r.definition.cluster.version = ""
  · rw [run, if_pos hversion] at hrun ⊢
    obtain ⟨rfl, rfl⟩ := Action.pure_ok hrun
    exact ⟨_, rfl, FileTree.Replays.start _ _, rfl, rfl, rfl⟩
  obtain ⟨report, rfl⟩ := run_ok_report hversion (congrArg Prod.fst hrun)
  obtain ⟨distribution, c, selection, documents, w₀, w₁, hdistribution, hcluster, hselection,
    hdocuments, hfinish, htree⟩ := run_ok_course hrun
  obtain ⟨c', hcluster', hstands⟩ := hclusters c hcluster
  have hfirst : (do
      let documents ← writeDocuments (Layout.documents r.output) c.documents
      finish d r distribution c documents selection).runIn (warned tree c) = (.ok report, w₁) :=
    (Action.runIn_bind_of_ok hdocuments).trans hfinish
  obtain ⟨-, hrepeat⟩ := hstands.repeats hd hR hdistribution _ _ _ hfirst
  -- the repetition starts with the files of the end, and has the same warnings
  have hstart : World.Replays R w₁.tree (warned tree c) (warned w₁.tree c') :=
    ⟨.start _ _, rfl, rfl, congrArg (fun c => c.warnings.map Warning.line) hstands.withoutTokens⟩
  obtain ⟨v, hsecond, hreplay⟩ := hrepeat w₁.tree (.refl _) _ hstart
  rw [← runVersioned_selected hdistribution hcluster hselection] at hfirst
  rw [← htree, ← runVersioned_selected hdistribution hcluster'
    ((select_congr hstands.withoutTokens _ _).trans hselection)] at hsecond
  rw [run_announced d draw hversion, hfirst] at hrun
  rw [run_announced d draw' hversion, hsecond]
  obtain ⟨-, rfl⟩ := Prod.mk.inj hrun
  exact ⟨_, rfl, hreplay.tree, hreplay.requests, hreplay.arrived,
    congrArg (· ++ _) hreplay.printed⟩

/-! ## §4. Building again. -/

/-- A role document that may be written in place of another: it is equal but for
the token. -/
def TokenMayDiffer (r : BuildRequest) (l : Location) (old now : ByteArray) : Prop :=
  now = old ∨ (∃ file ∈ roleFiles, l = rolePlace r file) ∧ ∃ doc doc' : RoleDocument,
    doc.withoutToken = doc'.withoutToken ∧ old = doc.toText.toUTF8 ∧ now = doc'.toText.toUTF8

/-- Two files of the same mode that hold role documents, whose mappings differ at
most under the token's key. -/
def TokenReplaced (e e' : Option FileEntry) : Prop :=
  ∃ (doc doc' : RoleDocument) (executable : Bool),
    AgreeButToken doc.toMapping doc'.toMapping
      ∧ e = some (.file doc.toText.toUTF8 executable)
      ∧ e' = some (.file doc'.toText.toUTF8 executable)

/-- What can be said about the end `out'` of a build on the files that the end
`out` of another one left. -/
structure Repeated (r : BuildRequest) (out out' : Except Trouble (Option BuildReport) × World) :
    Prop where
  /-- It ends in the same way, with the same report. -/
  result : out'.1 = out.1
  /-- The same is requested. -/
  requests : out'.2.requests = out.2.requests
  /-- The same arrives. -/
  arrived : out'.2.arrived = out.2.arrived
  /-- The same is printed. -/
  printed : out'.2.printed = out.2.printed
  /-- Nothing is added, removed or changed but for the role documents. -/
  elsewhere : ∀ l, (∀ file ∈ roleFiles, l ≠ rolePlace r file) →
    out'.2.tree.get? l = out.2.tree.get? l
  /-- Their tokens may be replaced. -/
  documents : ∀ file ∈ roleFiles,
    out'.2.tree.get? (rolePlace r file) = out.2.tree.get? (rolePlace r file)
    ∨ TokenReplaced (out.2.tree.get? (rolePlace r file)) (out'.2.tree.get? (rolePlace r file))

/-- Two draws make clusters that stand for each other. -/
theorem clusterFor_standsFor {c : Cluster} (draw' : Draw)
    (hcluster : clusterFor tree r.definition.cluster r.configDir r.settings.cluster draw = .ok c) :
    ∃ c', clusterFor tree r.definition.cluster r.configDir r.settings.cluster draw' = .ok c'
      ∧ StandsFor (TokenMayDiffer r) r c c' := by
  have hclusters : (clusterFor tree r.definition.cluster r.configDir r.settings.cluster draw').map
        Cluster.withoutTokens
      = (clusterFor tree r.definition.cluster r.configDir r.settings.cluster draw).map
        Cluster.withoutTokens := clusterFor_withoutTokens draw draw' rfl fun _ _ => rfl
  rcases Except.cases_of_map_eq hclusters with ⟨f, hf, -⟩ | ⟨c₀, c', hc₀, hc', hsame⟩
  · exact absurd (hcluster.symm.trans hf) (by simp)
  obtain rfl := Except.ok.inj (hcluster.symm.trans hc₀)
  refine ⟨c', hc', hsame, (documents_agree hsame).imp fun doc doc' hdoc => ?_⟩
  obtain ⟨hfile, hname, htoken⟩ := hdoc
  exact ⟨hname, .inr ⟨⟨doc.1, hfile, rfl⟩, doc.2, doc'.2, htoken, rfl, rfl⟩⟩

/-- What is left when role documents may be replaced. -/
theorem repeated_of_replays {result : Except Trouble (Option BuildReport)} {w v : World}
    (h : World.Replays (TokenMayDiffer r) w.tree w v) : Repeated r (result, w) (result, v) := by
  have hfinal := h.tree.final fun _ _ => .inl rfl
  have hplaces : ∀ l, v.tree.get? l = w.tree.get? l ∨ (∃ file ∈ roleFiles, l = rolePlace r file)
      ∧ TokenReplaced (w.tree.get? l) (v.tree.get? l) := by
    intro l
    rcases hfinal l with hsame | ⟨old, now, executable, hold | hdocs, hw, hv⟩
    · exact .inl hsame
    · rw [hold] at hv
      exact .inl (hv.trans hw.symm)
    · obtain ⟨hplace, doc, doc', htoken, rfl, rfl⟩ := hdocs
      exact .inr ⟨hplace, doc, doc', executable, RoleDocument.toMapping_agrees htoken, hw, hv⟩
  exact {
    result := rfl
    requests := h.requests
    arrived := h.arrived
    printed := h.printed
    elsewhere := fun l hl =>
      (hplaces l).resolve_right fun ⟨⟨file, hfile, heq⟩, _⟩ => hl file hfile heq
    documents := fun file _ => (hplaces _).imp_right And.right }

/-- **A build can be repeated on the files that it left.**  The downloader may be
any whose successes are determined by what it is asked, and the user's documents
anything whose way the first build does not touch.  Whatever is drawn, the
repetition succeeds with the same report and at most replaces tokens in the role
documents; with the same token it changes nothing at all. -/
theorem run_again (hd : d.Determined content mode) {result : Option BuildReport} {w : World}
    (hrun : (run d r draw).runIn (World.ofTree tree) = (.ok result, w))
    (huser : ∀ file ∈ userFiles, ∀ l, Path.Passes (Layout.userDocument r.configDir file) l →
      ¬ Touches r draw tree w.tree l) (draw' : Draw) :
    Repeated r (.ok result, w) ((run d r draw').runIn (World.ofTree w.tree))
      ∧ (SameToken r tree draw draw' → ∀ l,
        ((run d r draw').runIn (World.ofTree w.tree)).2.tree.get? l = w.tree.get? l) := by
  have hclusters : clusterFor w.tree r.definition.cluster r.configDir r.settings.cluster draw'
      = clusterFor tree r.definition.cluster r.configDir r.settings.cluster draw' :=
    clusterFor_congr draw' fun file hfile l hl =>
      run_untouched hd.exact hrun (huser file hfile l hl)
  constructor
  · have hstands : ∀ c,
        clusterFor tree r.definition.cluster r.configDir r.settings.cluster draw = .ok c →
        ∃ c', clusterFor w.tree r.definition.cluster r.configDir r.settings.cluster draw' = .ok c'
          ∧ StandsFor (TokenMayDiffer r) r c c' := by
      intro c hc
      rw [hclusters]
      exact clusterFor_standsFor draw' hc
    obtain ⟨v, hv, hreplay⟩ := run_repeats hd (fun _ _ => .inl rfl) hrun hstands
    rw [hv]
    exact repeated_of_replays hreplay
  · intro htoken l
    have hcluster : ∀ c,
        clusterFor tree r.definition.cluster r.configDir r.settings.cluster draw = .ok c →
        clusterFor w.tree r.definition.cluster r.configDir r.settings.cluster draw' = .ok c :=
      fun c hc => hclusters.trans (htoken.clusterFor_eq.trans hc)
    obtain ⟨v, hv, hreplay⟩ := run_repeats (R := fun _ => Eq) hd (fun _ _ => rfl) hrun
      fun c hc => ⟨c, hcluster c hc, .refl (fun _ _ => rfl) c⟩
    rw [hv]
    rcases hreplay.tree.final (fun _ _ => rfl) l with hsame | ⟨old, now, executable, rfl, hw, hl⟩
    · exact hsame
    · exact hl.trans hw.symm

end

/-- A cluster of two nodes with a drawn token: another draw replaces the token,
and the same draw changes nothing. -/
theorem run_again_drawn :
    let d := Downloader.rehearsal none
    let r : BuildRequest :=
      ⟨⟨.x86_64, "v1.30.3+k3s1", .empty, [⟨"a", .server, false⟩, ⟨"b", .agent, false⟩]⟩,
        "config", "out", .default⟩
    let tree : FileTree := ⟨[
      (["config"], .directory),
      (["config", "kubernetes"], .directory),
      (["config", "kubernetes", "config"], .directory),
      (["config", "kubernetes", "config", "server.yaml"], .file "tls-san: x\n".toUTF8 false),
      (["config", "kubernetes", "config", "agent.yaml"], .file "debug: true\n".toUTF8 false)]⟩
    let draw : Draw := Vector.replicate 32 7
    let draw' : Draw := Vector.replicate 32 8
    let first := (run d r draw).runIn (World.ofTree tree)
    let second := (run d r draw').runIn (World.ofTree first.2.tree)
    d.Determined String.toUTF8 (fun _ => none) ∧ first.1.isOk = true ∧ Repeated r first second
      ∧ second.2.tree.get? (rolePlace r Cluster.serverFile)
        ≠ first.2.tree.get? (rolePlace r Cluster.serverFile)
      ∧ ∀ l, ((run d r draw).runIn (World.ofTree first.2.tree)).2.tree.get? l
        = first.2.tree.get? l := by
  intro d r tree draw draw' first second
  have hd : d.Determined String.toUTF8 fun _ => none := Downloader.rehearsal_determined none
  -- only that the first build succeeds and what the second one replaces is computed
  obtain ⟨hok, hreplaced⟩ : first.1.isOk = true
      ∧ second.2.tree.get? (rolePlace r Cluster.serverFile)
        ≠ first.2.tree.get? (rolePlace r Cluster.serverFile) := by
    decide +kernel
  obtain ⟨result, hrun⟩ : ∃ result, first = (.ok result, first.2) := Action.exists_ok hok
  -- the way to the user's documents is there and does not lead below the output directory
  have hway : ∀ file ∈ userFiles,
      ∀ front ∈ (Path.steps (Layout.userDocument r.configDir file)).inits,
      tree.get? (front.foldl Path.descend (Path.root (Layout.userDocument r.configDir file))) ≠ none
        ∧ ¬ target r.output
          <+: front.foldl Path.descend (Path.root (Layout.userDocument r.configDir file)) := by
    decide +kernel
  have huser : ∀ file ∈ userFiles, ∀ l,
      Path.Passes (Layout.userDocument r.configDir file) l →
      ¬ Touches r draw tree first.2.tree l := by
    rintro file hfile l ⟨front, hfront, rfl⟩ htouches
    obtain ⟨hpresent, hbelow⟩ := hway file hfile front ((List.mem_inits _ _).2 hfront)
    exact hbelow (htouches.below hpresent)
  obtain ⟨hrepeated, -⟩ := run_again hd hrun huser draw'
  obtain ⟨-, hsame⟩ := run_again hd hrun huser draw
  exact ⟨hd, hok, by rwa [← hrun] at hrepeated, hreplaced, hsame (.drawn rfl)⟩

/-- A build that writes over the user's documents is not repeated: what it derived
is taken for the user's, and the addresses are listed once more. -/
example :
    let d := Downloader.rehearsal none
    let r : BuildRequest :=
      ⟨⟨.x86_64, "v1.30.3+k3s1", ⟨"", "", "api.example"⟩, [⟨"a", .server, false⟩]⟩,
        "out", "out", { Settings.default with skipArtefacts := true }⟩
    let draw : Draw := Vector.replicate 32 7
    let first := (run d r draw).runIn (World.ofTree .empty)
    let second := (run d r draw).runIn (World.ofTree first.2.tree)
    first.2.tree.read "out/kubernetes/config/server.yaml"
        = .ok "---\ncni: canal\ntls-san:\n  - api.example\n".toUTF8
      ∧ second.2.tree.read "out/kubernetes/config/server.yaml"
        = .ok "---\ncni: canal\ntls-san:\n  - api.example\n  - api.example\n".toUTF8 := by
  decide +kernel

end Build

end ClusterBoot
