/-
  ClusterBoot.Proofs.DerivationOutcome
  ────────────────────────────────
  **WHEN A CLUSTER CAN BE DERIVED, AND WHAT IS WRONG IF IT CANNOT.**

  A file gives a role document (`HasDocument`) or it is at fault (`HasFault`).  A
  cluster is derived if the file of the servers gives a document and, for several
  nodes, that of the agents does and a node can initialise the cluster
  (`Derivable`).  What is looked at first is reported first (`FirstFault`).

  A missing file is as good as one that says nothing (`load_textAt_congr`); a file
  that holds no text is never taken for a missing one (`HasFault.of_unreadable`).
-/
import ClusterBoot.Build
import ClusterBoot.Proofs.CertificateNames
import Mathlib.Data.List.Nodup

namespace ClusterBoot

/-! ## §1. What a file gives. -/

/-- The bytes of a text, and no others, are read as this text. -/
theorem fromUTF8?_eq_some_iff {content : ByteArray} {s : String} :
    String.fromUTF8? content = some s ↔ content = s.toUTF8 := by
  unfold String.fromUTF8?
  split
  next hvalid =>
    rw [Option.some.injEq]
    constructor
    · rintro rfl
      rfl
    · rintro rfl
      rfl
  next hinvalid =>
    constructor
    · rintro ⟨⟩
    · rintro rfl
      exact absurd s.isValidUTF8 hinvalid

theorem fromUTF8?_eq_none_iff {content : ByteArray} :
    String.fromUTF8? content = none ↔ ∀ s : String, content ≠ s.toUTF8 := by
  rw [Option.eq_none_iff_forall_ne_some]
  exact forall_congr' fun s => not_congr fromUTF8?_eq_some_iff

namespace Build

variable {tree tree' : FileTree} {path : String}

/-- The role document that the file at a path gives. -/
inductive HasDocument (tree : FileTree) (path : String) : RoleDocument → Prop
  /-- A missing file gives the empty document. -/
  | missing (h : tree.read path = .error .missing) : HasDocument tree path .empty
  /-- A text gives the document that it stands for. -/
  | text {s : String} {doc : RoleDocument} (h : tree.read path = .ok s.toUTF8)
      (hdoc : RoleDocument.ofText s = .ok doc) : HasDocument tree path doc

/-- What is wrong with the file at a path. -/
inductive HasFault (tree : FileTree) (path : String) : Failure → Prop
  /-- It cannot be read. -/
  | refused (h : tree.read path = .error .refused) : HasFault tree path (.documentUnreadable path)
  /-- Its bytes are no text. -/
  | notText {content : ByteArray} (h : tree.read path = .ok content)
      (hcontent : ∀ s : String, content ≠ s.toUTF8) :
      HasFault tree path (.documentUnreadable path)
  /-- Its text stands for no document. -/
  | rejected {s : String} {fault : DocumentFault} (h : tree.read path = .ok s.toUTF8)
      (hfault : RoleDocument.ofText s = .error fault) :
      HasFault tree path (.documentFault path fault)

theorem textAt_of_text {s : String} (h : tree.read path = .ok s.toUTF8) :
    textAt tree path = .text s := by
  have hs : String.fromUTF8? s.toUTF8 = some s := fromUTF8?_eq_some_iff.2 rfl
  simp only [textAt, h, hs]

/-- What the file at a path gives is loaded from it. -/
theorem HasDocument.load_eq {doc : RoleDocument} (h : HasDocument tree path doc) :
    RoleDocument.load path (textAt tree path) = .ok doc := by
  cases h with
  | missing h => simp only [textAt, h, RoleDocument.load]
  | text h hdoc => simp only [textAt_of_text h, RoleDocument.load, hdoc]

/-- What is wrong with the file at a path is reported when it is loaded. -/
theorem HasFault.load_eq {f : Failure} (h : HasFault tree path f) :
    RoleDocument.load path (textAt tree path) = .error f := by
  cases h with
  | refused h => simp only [textAt, h, RoleDocument.load]
  | notText h hcontent =>
      simp only [textAt, h, fromUTF8?_eq_none_iff.2 hcontent, RoleDocument.load]
  | rejected h hfault => simp only [textAt_of_text h, RoleDocument.load, hfault]

/-- A file gives a document or something is wrong with it. -/
theorem hasDocument_or_hasFault (tree : FileTree) (path : String) :
    (∃ doc, HasDocument tree path doc) ∨ ∃ f, HasFault tree path f := by
  cases hread : tree.read path with
  | error obstacle =>
      cases obstacle with
      | missing => exact .inl ⟨_, .missing hread⟩
      | refused => exact .inr ⟨_, .refused hread⟩
  | ok content =>
      cases htext : String.fromUTF8? content with
      | none => exact .inr ⟨_, .notText hread (fromUTF8?_eq_none_iff.1 htext)⟩
      | some s =>
          rw [fromUTF8?_eq_some_iff.1 htext] at hread
          cases hdoc : RoleDocument.ofText s with
          | ok doc => exact .inl ⟨_, .text hread hdoc⟩
          | error fault => exact .inr ⟨_, .rejected hread hdoc⟩

/-! ## §2. Files that say nothing, and files without a text. -/

/-- Something is at a path, and it is not a file that holds a text. -/
def IsUnreadable (tree : FileTree) (path : String) : Prop :=
  ∃ l entry, tree.locate path = .ok l ∧ tree.get? l = some entry
    ∧ ∀ (s : String) (executable : Bool), entry ≠ .file s.toUTF8 executable

/-- What holds no text is reported. -/
theorem HasFault.of_unreadable (h : IsUnreadable tree path) :
    HasFault tree path (.documentUnreadable path) := by
  obtain ⟨l, entry, hlocate, hentry, hother⟩ := h
  cases entry with
  | directory => exact .refused (by simp only [FileTree.read, hlocate, hentry])
  | file content executable =>
      have hread : tree.read path = .ok content := by simp only [FileTree.read, hlocate, hentry]
      refine .notText hread ?_
      rintro s rfl
      exact hother s executable rfl

/-- The first document of a stream is empty, null or an empty mapping. -/
inductive SaysNothing : List Yaml.Value → Prop
  | empty : SaysNothing []
  | null (docs : List Yaml.Value) : SaysNothing (.null :: docs)
  | emptyMapping (docs : List Yaml.Value) : SaysNothing (.map [] :: docs)

/-- There is no file at a path, or one that says nothing. -/
inductive IsBlank (tree : FileTree) (path : String) : Prop
  | missing (h : tree.read path = .error .missing)
  | text {s : String} {docs : List Yaml.Value} (h : tree.read path = .ok s.toUTF8)
      (hdocs : Yaml.documents? s = some docs) (hnothing : SaysNothing docs)

/-- Two trees have the same at a path, up to files that say nothing. -/
def SameFile (tree tree' : FileTree) (path : String) : Prop :=
  tree.read path = tree'.read path ∨ (IsBlank tree path ∧ IsBlank tree' path)

/-- Where nothing is said the document is the empty one. -/
theorem IsBlank.hasDocument (h : IsBlank tree path) : HasDocument tree path .empty := by
  cases h with
  | missing h => exact .missing h
  | text h hdocs hnothing =>
      refine .text h ?_
      rw [RoleDocument.ofText, hdocs]
      cases hnothing <;> rfl

/-- What is loaded does not tell files that say nothing apart. -/
theorem load_textAt_congr (h : SameFile tree tree' path) :
    RoleDocument.load path (textAt tree path) = RoleDocument.load path (textAt tree' path) := by
  rcases h with hread | ⟨hblank, hblank'⟩
  · simp only [textAt, hread]
  · rw [hblank.hasDocument.load_eq, hblank'.hasDocument.load_eq]

end Build

/-! ## §3. The node that initialises a cluster. -/

/-- That a host name is the one of the node that initialises a cluster. -/
structure Elected (nodes : List Node) (hostname : String) : Prop where
  /-- It is the one of the first node that is chosen to, or of the first server if
  none is chosen. -/
  first : ∃ before node after, nodes = before ++ node :: after ∧ node.hostname = hostname
    ∧ ((node.initialiser = true ∧ ∀ n ∈ before, n.initialiser = false)
      ∨ ((∀ n ∈ nodes, n.initialiser = false)
        ∧ node.kind = .server ∧ ∀ n ∈ before, n.kind ≠ .server))
  /-- No other node has it if all host names are different. -/
  single : (nodes.map (·.hostname)).Nodup → nodes.countP (·.hostname = hostname) = 1

theorem findInitialiser_eq_none_iff {nodes : List Node} :
    findInitialiser nodes = none ↔ ∀ n ∈ nodes, n.initialiser = false ∧ n.kind ≠ .server := by
  rw [findInitialiser, Option.map_eq_none_iff, Option.or_eq_none_iff, List.find?_eq_none,
    List.find?_eq_none, ← forall₂_and]
  simp only [Bool.not_eq_true, decide_eq_true_eq]

theorem findInitialiser_isSome_iff {nodes : List Node} :
    (∃ hostname, findInitialiser nodes = some hostname)
      ↔ ∃ n ∈ nodes, n.initialiser = true ∨ n.kind = .server := by
  rw [← Option.ne_none_iff_exists', Ne, findInitialiser_eq_none_iff]
  simp only [not_forall, not_and_or, Bool.not_eq_false, not_not, exists_prop]

/-- The node that is found is the one to elect. -/
theorem elected_of_findInitialiser {nodes : List Node} {hostname : String}
    (h : findInitialiser nodes = some hostname) : Elected nodes hostname := by
  obtain ⟨node, hfind, rfl⟩ := Option.map_eq_some_iff.1 h
  have hfirst : ∃ before after, nodes = before ++ node :: after
      ∧ ((node.initialiser = true ∧ ∀ n ∈ before, n.initialiser = false)
        ∨ ((∀ n ∈ nodes, n.initialiser = false)
          ∧ node.kind = .server ∧ ∀ n ∈ before, n.kind ≠ .server)) := by
    rcases Option.or_eq_some_iff.1 hfind with hchosen | ⟨hnone, hserver⟩
    · obtain ⟨hnode, before, after, hnodes, hbefore⟩ := List.find?_eq_some_iff_append.1 hchosen
      exact ⟨before, after, hnodes, .inl ⟨hnode, by simpa using hbefore⟩⟩
    · obtain ⟨hnode, before, after, hnodes, hbefore⟩ := List.find?_eq_some_iff_append.1 hserver
      exact ⟨before, after, hnodes,
        .inr ⟨by simpa using hnone, by simpa using hnode, by simpa using hbefore⟩⟩
  obtain ⟨before, after, hnodes, hchoice⟩ := hfirst
  refine ⟨⟨before, node, after, hnodes, rfl, hchoice⟩, fun hdistinct => ?_⟩
  have hmem : node.hostname ∈ nodes.map (·.hostname) :=
    List.mem_map.2 ⟨node, by rw [hnodes]; simp, rfl⟩
  rw [← List.count_eq_one_of_mem hdistinct hmem, List.count_eq_countP, List.countP_map]
  rfl

/-- A chosen agent goes before all servers, and the first chosen node before others. -/
example : findInitialiser [⟨"a", .server, false⟩, ⟨"b", .agent, true⟩, ⟨"c", .server, true⟩]
    = some "b" := by
  decide

/-! ## §4. Outcomes. -/

namespace Build

/-- The cluster that a definition and the files at two paths make. -/
def clusterAt (tree : FileTree) (serverPath agentPath : String) (definition : ClusterDefinition)
    (options : ClusterOptions) (draw : Draw) : Except Failure Cluster :=
  Cluster.derive definition options draw
    (RoleDocument.load serverPath (textAt tree serverPath))
    (RoleDocument.load agentPath (textAt tree agentPath))

/-- A build derives its cluster from the files in the configuration directory. -/
theorem clusterFor_eq_clusterAt (tree : FileTree) (definition : ClusterDefinition)
    (configDir : String) (options : ClusterOptions) (draw : Draw) :
    clusterFor tree definition configDir options draw
      = clusterAt tree (Layout.userDocument configDir Cluster.serverFile)
          (Layout.userDocument configDir Cluster.agentFile) definition options draw :=
  rfl

/-- The first of the things that are wrong with the files and the nodes. -/
inductive FirstFault (tree : FileTree) (serverPath agentPath : String) (nodes : List Node) :
    Failure → Prop
  /-- Something is wrong with the file of the servers. -/
  | server {f : Failure} (h : HasFault tree serverPath f) :
      FirstFault tree serverPath agentPath nodes f
  /-- There are several nodes, and something is wrong with the file of the agents. -/
  | agent {S : RoleDocument} {f : Failure} (hserver : HasDocument tree serverPath S)
      (hnodes : 2 ≤ nodes.length) (h : HasFault tree agentPath f) :
      FirstFault tree serverPath agentPath nodes f
  /-- There are several nodes, and none can initialise the cluster. -/
  | nodes {S A : RoleDocument} (hserver : HasDocument tree serverPath S)
      (hnodes : 2 ≤ nodes.length) (hagent : HasDocument tree agentPath A)
      (h : ∀ n ∈ nodes, n.initialiser = false ∧ n.kind ≠ .server) :
      FirstFault tree serverPath agentPath nodes .noInitialiser

section Outcomes

variable {serverPath agentPath : String} {definition : ClusterDefinition}

/-- What is wrong first is reported. -/
theorem FirstFault.clusterAt_eq {f : Failure}
    (h : FirstFault tree serverPath agentPath definition.nodes f) (options : ClusterOptions)
    (draw : Draw) :
    clusterAt tree serverPath agentPath definition options draw = .error f := by
  cases h with
  | server h =>
      rw [clusterAt, h.load_eq]
      rfl
  | agent hserver hnodes h =>
      have hmulti : definition.isMultiNode = true := decide_eq_true hnodes
      rw [clusterAt, hserver.load_eq, h.load_eq]
      simp only [Cluster.derive, bind, Except.bind, hmulti, if_true]
  | nodes hserver hnodes hagent h =>
      have hmulti : definition.isMultiNode = true := decide_eq_true hnodes
      rw [clusterAt, hserver.load_eq, hagent.load_eq]
      simp only [Cluster.derive, bind, Except.bind, hmulti, if_true,
        findInitialiser_eq_none_iff.2 h]

/-- What is needed to derive a cluster. -/
structure Derivable (tree : FileTree) (serverPath agentPath : String) (nodes : List Node) :
    Prop where
  /-- The file of the servers gives a document. -/
  server : ∃ S, HasDocument tree serverPath S
  /-- For several nodes that of the agents does too, -/
  agent : 2 ≤ nodes.length → ∃ A, HasDocument tree agentPath A
  /-- and a node is chosen to initialise the cluster or is a server. -/
  initialiser : 2 ≤ nodes.length → ∃ n ∈ nodes, n.initialiser = true ∨ n.kind = .server

/-- A cluster can be derived unless something is wrong. -/
theorem derivable_or_firstFault (tree : FileTree) (serverPath agentPath : String)
    (nodes : List Node) :
    Derivable tree serverPath agentPath nodes
      ∨ ∃ f, FirstFault tree serverPath agentPath nodes f := by
  rcases hasDocument_or_hasFault tree serverPath with ⟨S, hS⟩ | ⟨f, hf⟩
  case inr => exact .inr ⟨f, .server hf⟩
  by_cases hnodes : 2 ≤ nodes.length
  case neg =>
    exact .inl ⟨⟨S, hS⟩, fun hmulti => absurd hmulti hnodes, fun hmulti => absurd hmulti hnodes⟩
  rcases hasDocument_or_hasFault tree agentPath with ⟨A, hA⟩ | ⟨f, hf⟩
  case inr => exact .inr ⟨f, .agent hS hnodes hf⟩
  cases hfind : findInitialiser nodes with
  | none => exact .inr ⟨_, .nodes hS hnodes hA (findInitialiser_eq_none_iff.1 hfind)⟩
  | some hostname =>
      exact .inl ⟨⟨S, hS⟩, fun _ => ⟨A, hA⟩,
        fun _ => findInitialiser_isSome_iff.1 ⟨hostname, hfind⟩⟩

/-- What can be derived is derived. -/
theorem Derivable.clusterAt_eq (h : Derivable tree serverPath agentPath definition.nodes)
    (options : ClusterOptions) (draw : Draw) :
    ∃ c, clusterAt tree serverPath agentPath definition options draw = .ok c := by
  obtain ⟨S, hS⟩ := h.server
  cases hmulti : definition.isMultiNode with
  | false =>
      refine ⟨Cluster.single definition options S, ?_⟩
      rw [clusterAt, Cluster.derive_single _ _ _ _ hmulti, hS.load_eq]
      rfl
  | true =>
      have hnodes : 2 ≤ definition.nodes.length := of_decide_eq_true hmulti
      obtain ⟨A, hA⟩ := h.agent hnodes
      obtain ⟨hostname, hfind⟩ := findInitialiser_isSome_iff.2 (h.initialiser hnodes)
      rw [clusterAt, hS.load_eq, hA.load_eq]
      simp only [Cluster.derive, bind, Except.bind, hmulti, if_true, hfind]
      exact ⟨_, rfl⟩

/-- The host name that initialises a cluster of several nodes was found. -/
theorem elected_of_derive {options : ClusterOptions} {draw : Draw}
    {server agent : Except Failure RoleDocument} {c : Cluster}
    (hnodes : 2 ≤ definition.nodes.length)
    (h : Cluster.derive definition options draw server agent = .ok c) :
    Elected definition.nodes c.initialiser := by
  obtain ⟨S, A, initialiser, -, -, hfind, rfl⟩ :=
    Cluster.derive_multi_ok (decide_eq_true hnodes) h
  exact elected_of_findInitialiser hfind

end Outcomes

/-- How a derivation ends. -/
structure OutcomeDecided (tree : FileTree) (serverPath agentPath : String) (nodes : List Node)
    (outcome : Except Failure Cluster) : Prop where
  /-- It succeeds exactly if there is what is needed. -/
  succeeds : (∃ c, outcome = .ok c) ↔ Derivable tree serverPath agentPath nodes
  /-- If not it reports what is wrong first, and nothing else. -/
  fails : ∀ f, outcome = .error f ↔ FirstFault tree serverPath agentPath nodes f
  /-- A file of the servers that holds no text is always reported, -/
  serverUnreadable : IsUnreadable tree serverPath →
    outcome = .error (.documentUnreadable serverPath)
  /-- and one of the agents whenever it is looked at. -/
  agentUnreadable : IsUnreadable tree agentPath → 2 ≤ nodes.length →
    (∃ S, HasDocument tree serverPath S) → outcome = .error (.documentUnreadable agentPath)
  /-- Of several nodes one is elected. -/
  elected : 2 ≤ nodes.length → ∀ c, outcome = .ok c → Elected nodes c.initialiser

end Build

open Build in
/-- **A cluster is derived, or the first thing that is wrong is reported**; a file
that says nothing is as good as none. -/
theorem derived_or_first_fault (tree : FileTree) (serverPath agentPath : String)
    (definition : ClusterDefinition) (options : ClusterOptions) (draw : Draw) :
    OutcomeDecided tree serverPath agentPath definition.nodes
        (clusterAt tree serverPath agentPath definition options draw)
      ∧ ∀ tree', SameFile tree tree' serverPath → SameFile tree tree' agentPath →
          clusterAt tree' serverPath agentPath definition options draw
            = clusterAt tree serverPath agentPath definition options draw := by
  have hsplit := derivable_or_firstFault tree serverPath agentPath definition.nodes
  refine ⟨{ succeeds := ⟨?_, ?_⟩, fails := fun f => ⟨?_, ?_⟩, serverUnreadable := ?_,
            agentUnreadable := ?_, elected := ?_ }, ?_⟩
  · rintro ⟨c, hc⟩
    rcases hsplit with hderivable | ⟨f, hfault⟩
    · exact hderivable
    · rw [hfault.clusterAt_eq] at hc
      cases hc
  · intro hderivable
    exact hderivable.clusterAt_eq options draw
  · intro hf
    rcases hsplit with hderivable | ⟨f', hfault⟩
    · obtain ⟨c, hc⟩ := hderivable.clusterAt_eq options draw
      rw [hc] at hf
      cases hf
    · rw [hfault.clusterAt_eq] at hf
      obtain rfl := Except.error.inj hf
      exact hfault
  · intro hfault
    exact hfault.clusterAt_eq options draw
  · intro hserver
    exact (FirstFault.server (.of_unreadable hserver)).clusterAt_eq options draw
  · rintro hagent hnodes ⟨S, hS⟩
    exact (FirstFault.agent hS hnodes (.of_unreadable hagent)).clusterAt_eq options draw
  · intro hnodes c hc
    exact elected_of_derive hnodes hc
  · intro tree' hserver hagent
    rw [clusterAt, clusterAt, load_textAt_congr hserver, load_textAt_congr hagent]

end ClusterBoot
