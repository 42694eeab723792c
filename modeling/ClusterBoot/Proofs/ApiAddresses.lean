/-
  ClusterBoot.Proofs.ApiAddresses
  ────────────────────────────────
  **THE ADDRESSES OF A CLUSTER'S API, WHEREVER THEY ARE COMPUTED.**

  Whether a cluster has several nodes is asked in many places, and so is which
  virtual addresses it has: the join address of the documents, the names in
  the certificate, the warning and the manifest are each made from the network
  on its own.  `api_agrees` says that all of them agree.

  The manifest lists `VirtualAddresses.ofNetwork`; the join address is that of
  its first entry (`joinAddress?_eq`), and all its entries are among the
  addresses that documents get (`mem_addresses`).
-/
import ClusterBoot.InstallScript
import ClusterBoot.Proofs.CertificateNames
import ClusterBoot.Proofs.Lines
import ClusterBoot.VirtualAddress

namespace ClusterBoot

open Cluster

/-! ## §1. The virtual addresses of a network. -/

namespace VirtualAddresses

/-- How an entry of the manifest is written in a URL: one of version 6 stands
between brackets. -/
def hostOf (entry : VirtualAddress × String) : String :=
  if entry.2 = "IPv6" then "[" ++ entry.1.address ++ "]" else entry.1.address

/-- An entry is of one of two versions, and its network part is as long as an
address of that version. -/
theorem mem_ofNetwork {network : Network} {entry : VirtualAddress × String}
    (h : entry ∈ ofNetwork network) :
    entry = (⟨network.apiVip, 32⟩, "IPv4") ∧ network.apiVip ≠ ""
      ∨ entry = (⟨network.apiVip6, 128⟩, "IPv6") ∧ network.apiVip6 ≠ "" := by
  rcases List.mem_append.1 h with h | h
  · split at h
    next => exact absurd h (by simp)
    next hvip => exact .inl ⟨List.mem_singleton.1 h, hvip⟩
  · split at h
    next => exact absurd h (by simp)
    next hvip6 => exact .inr ⟨List.mem_singleton.1 h, hvip6⟩

/-- The addresses of the manifest are among those of the network. -/
theorem mem_addresses {network : Network} {entry : VirtualAddress × String}
    (h : entry ∈ ofNetwork network) : entry.1.address ∈ network.addresses := by
  rcases mem_ofNetwork h with ⟨rfl, hvip⟩ | ⟨rfl, hvip6⟩
  · exact List.mem_filter.2 ⟨by simp, by simpa using hvip⟩
  · exact List.mem_filter.2 ⟨by simp, by simpa using hvip6⟩

/-- Nodes join at the first entry of the manifest. -/
theorem joinAddress?_eq (network : Network) (port : Nat) :
    network.joinAddress? port = (ofNetwork network).head?.map fun entry =>
      "https://" ++ hostOf entry ++ ":" ++ toString port := by
  unfold Network.joinAddress? ofNetwork
  by_cases hvip : network.apiVip = ""
  · by_cases hvip6 : network.apiVip6 = ""
    · simp [hvip, hvip6]
    · -- the brackets belong to the fixed parts of the one text and to the host of the other
      have hbrackets : ∀ host rest : String,
          "https://[" ++ host ++ "]:" ++ rest = "https://" ++ ("[" ++ host ++ "]") ++ ":" ++ rest := by
        intro host rest
        rw [show "https://[" = "https://" ++ "[" by decide, show "]:" = "]" ++ ":" by decide]
        simp only [String.append_assoc]
      simp only [hvip, hvip6, ne_eq, not_true_eq_false, not_false_eq_true, if_true, if_false,
        List.nil_append, List.head?_cons, Option.map_some, hostOf, hbrackets]
  · simp [hvip, hostOf]

/-- A cluster of several nodes has a manifest exactly if its nodes have an
address to join at. -/
theorem ofCluster?_eq_none_iff {definition : ClusterDefinition} (d : Distribution) (port : Nat)
    (hm : definition.isMultiNode = true) :
    ofCluster? definition d = none ↔ definition.network.joinAddress? port = none := by
  rw [joinAddress?_eq]
  unfold ofCluster?
  cases hentries : ofNetwork definition.network with
  | nil => simp [hm]
  | cons entry entries => simp [hm]

/-- The manifest of a cluster lists the entries of its network, of which there
is a first. -/
theorem ofCluster?_eq_some {definition : ClusterDefinition} {d : Distribution}
    {v : VirtualAddresses} (h : ofCluster? definition d = some v) :
    definition.isMultiNode = true ∧ ∃ first rest,
      ofNetwork definition.network = first :: rest
        ∧ v = ⟨(first :: rest).map (·.1), (first :: rest).map (·.2), d = .rke2⟩ := by
  unfold ofCluster? at h
  cases hentries : ofNetwork definition.network with
  | nil => simp [hentries] at h
  | cons first rest =>
      rw [hentries] at h
      cases hm : definition.isMultiNode with
      | false => simp [hm] at h
      | true =>
          simp only [hm, Bool.not_true, List.isEmpty_cons, Bool.or_self, Bool.false_eq_true,
            if_false, Option.some.injEq] at h
          exact ⟨rfl, first, rest, rfl, h.symm⟩

/-- The manifest forwards the join port of its distribution. -/
theorem forwards_joinPort {v : VirtualAddresses} {d : Distribution} (h : v.rke2 = (d = .rke2 : Bool)) :
    "      port: " ++ toString d.joinPort ∈ v.manifestLines := by
  have hservice : ∀ line ∈ v.serviceLines, line ∈ v.manifestLines := fun line hline =>
    List.mem_append_right _ hline
  apply hservice
  cases d with
  | rke2 =>
      -- the join port of RKE2 is only forwarded for RKE2; that of K3s is the port of the API
      have hport : "      port: " ++ toString Distribution.rke2.joinPort ∈ rke2PortLines := by decide
      simp only [serviceLines, h, List.mem_append]
      exact .inl (.inl (.inl (.inl (.inr (by simpa using hport)))))
  | k3s =>
      have hport : "      port: " ++ toString Distribution.k3s.joinPort ∈ apiPortLines := by decide
      simp only [serviceLines, List.mem_append]
      exact .inl (.inl (.inl (.inr hport)))

/-- An address may have a line feed in it, but the line of a port has none, so it
is a line of the text. -/
theorem mem_pieces_port {v : VirtualAddresses} {d : Distribution}
    (h : "      port: " ++ toString d.joinPort ∈ v.manifestLines) :
    "      port: " ++ toString d.joinPort ∈ Text.pieces '\n' v.manifest := by
  apply Text.mem_pieces_unlines h
  cases d <;> decide

end VirtualAddresses

/-! ## §2. Several nodes or one. -/

namespace Cluster

/-- Whether a cluster has several nodes is answered everywhere in the same
way. -/
structure ModesAgree (definition : ClusterDefinition) (c : Cluster) : Prop where
  /-- By the documents of the agents. -/
  agents : c.isMultiNode = true ↔ 2 ≤ definition.nodes.length
  /-- By the document of the initialising server. -/
  initialiser : c.initialiserDocument.isSome = true ↔ 2 ≤ definition.nodes.length
  /-- By the script that is chosen. -/
  variant : InstallVariant.ofCluster c = .multiNode ↔ 2 ≤ definition.nodes.length
  /-- By the number of role documents. -/
  documents : c.documents.length = 3 ↔ 2 ≤ definition.nodes.length
  /-- By the nodes that the script lists: all of them with their host names and
  roles, or none. -/
  listed : ∀ selection paths vipManifest selinux,
    (InstallValues.ofCluster definition c selection paths vipManifest selinux).nodes
      = if 2 ≤ definition.nodes.length then
          definition.nodes.map fun n =>
            { hostname := n.hostname, role := if n.kind = .server then "server" else "agent" }
        else []

/-- A derived cluster has documents for agents exactly if there are several
nodes. -/
theorem isMultiNode_derive {definition : ClusterDefinition} {options : ClusterOptions} {draw : Draw}
    {server agent : Except Failure RoleDocument} {c : Cluster}
    (h : derive definition options draw server agent = .ok c) :
    c.isMultiNode = definition.isMultiNode := by
  cases hm : definition.isMultiNode with
  | true =>
      obtain ⟨S, A, i, -, -, -, rfl⟩ := derive_multi_ok hm h
      rfl
  | false =>
      obtain ⟨S, -, rfl⟩ := derive_single_ok hm h
      rw [single_names]
      rfl

/-- One role document is always there, and the two others are there together. -/
theorem length_documents {c : Cluster} (h : c.initialiserDocument.isSome = c.isMultiNode) :
    c.documents.length = 3 ↔ c.isMultiNode = true := by
  obtain ⟨initialiser, initialiserDocument, serverDocument, agentDocument, warnings⟩ := c
  cases initialiserDocument <;> cases agentDocument <;>
    simp_all [Cluster.documents, Cluster.isMultiNode]

/-- The mode of a derived cluster is that of its definition. -/
theorem modesAgree_derive {definition : ClusterDefinition} {options : ClusterOptions} {draw : Draw}
    {server agent : Except Failure RoleDocument} {c : Cluster}
    (h : derive definition options draw server agent = .ok c) : ModesAgree definition c := by
  have hmode : c.isMultiNode = true ↔ 2 ≤ definition.nodes.length := by
    rw [isMultiNode_derive h]
    exact decide_eq_true_iff
  have hpair : c.initialiserDocument.isSome = c.isMultiNode := derive_documents h
  refine {
    agents := hmode
    initialiser := by rw [hpair, hmode]
    variant := ?_
    documents := ?_
    listed := fun selection paths vipManifest selinux => ?_ }
  · rw [← hmode, InstallVariant.ofCluster]
    cases c.isMultiNode <;> simp
  · rw [length_documents hpair, hmode]
  · have hrole : NodeRole.ofNode = fun n : Node =>
        { hostname := n.hostname, role := if n.kind = .server then "server" else "agent" } := by
      funext n
      obtain ⟨hostname, kind, initialiser⟩ := n
      cases kind <;> rfl
    show (if c.isMultiNode then definition.nodes.map NodeRole.ofNode else []) = _
    rw [hrole]
    simp only [hmode]

/-! ## §3. One set of addresses. -/

/-- What the manifest `v` of a cluster of several nodes has to do with its
documents. -/
structure Announces (c : Cluster) (v : VirtualAddresses) : Prop where
  /-- Each address has an IP version. -/
  paired : v.addresses.length = v.ipFamilies.length
  /-- The network part of an address is as long as its version says. -/
  versions : ∀ (i : Nat) (address : VirtualAddress) (family : String),
    v.addresses[i]? = some address → v.ipFamilies[i]? = some family →
    (family = "IPv4" ∧ address.networkBits = 32) ∨ (family = "IPv6" ∧ address.networkBits = 128)
  /-- Nodes join at the first address and a port that is forwarded: a line of the
  manifest says so, and it is a line of its text. -/
  joined : ∃ address family port, v.addresses[0]? = some address ∧ v.ipFamilies[0]? = some family
    ∧ port = (if v.rke2 then 9345 else 6443)
    ∧ "      port: " ++ toString port ∈ v.manifestLines
    ∧ "      port: " ++ toString port ∈ Text.pieces '\n' v.manifest
    ∧ c.serverDocument.server = some ("https://"
        ++ (if family = "IPv6" then "[" ++ address.address ++ "]" else address.address)
        ++ ":" ++ toString port)
  /-- Every role document lists all addresses for the certificate. -/
  certified : ∀ doc ∈ c.documents, ∃ names, doc.2.tlsSan = .list names
    ∧ ∀ address ∈ v.addresses, address.address ∈ names

/-- A manifest announces what the documents say. -/
theorem announces_derive {definition : ClusterDefinition} {options : ClusterOptions} {draw : Draw}
    {server agent : Except Failure RoleDocument} {c : Cluster} {d : Distribution}
    {v : VirtualAddresses} (hd : Distribution.ofVersion? definition.version = some d)
    (h : derive definition options draw server agent = .ok c)
    (hv : VirtualAddresses.ofCluster? definition d = some v) : Announces c v := by
  obtain ⟨hm, first, rest, hentries, rfl⟩ := VirtualAddresses.ofCluster?_eq_some hv
  have hmem : ∀ entry ∈ first :: rest, entry ∈ VirtualAddresses.ofNetwork definition.network :=
    fun entry hentry => hentries ▸ hentry
  have hport : definition.joinPort = d.joinPort := by
    rw [ClusterDefinition.joinPort, hd]
    rfl
  refine { paired := by simp, versions := ?_, joined := ?_, certified := ?_ }
  · intro i address family haddress hfamily
    -- the two lists are the halves of one list of entries
    rw [List.getElem?_map, Option.map_eq_some_iff] at haddress hfamily
    obtain ⟨entry, hentry, rfl⟩ := haddress
    obtain ⟨entry', hentry', rfl⟩ := hfamily
    obtain rfl := Option.some.inj (hentry.symm.trans hentry')
    rcases VirtualAddresses.mem_ofNetwork (hmem entry (List.mem_of_getElem? hentry))
      with ⟨rfl, -⟩ | ⟨rfl, -⟩
    · exact .inl ⟨rfl, rfl⟩
    · exact .inr ⟨rfl, rfl⟩
  · have hforwards := VirtualAddresses.forwards_joinPort (v := ⟨(first :: rest).map (·.1),
      (first :: rest).map (·.2), d = .rke2⟩) (d := d) rfl
    refine ⟨first.1, first.2, d.joinPort, rfl, rfl, ?_, hforwards,
      VirtualAddresses.mem_pieces_port hforwards, ?_⟩
    · cases d <;> rfl
    · obtain ⟨S, A, i, -, -, -, rfl⟩ := derive_multi_ok hm h
      have hjoin : definition.network.joinAddress? definition.joinPort
          = some ("https://" ++ VirtualAddresses.hostOf first ++ ":" ++ toString d.joinPort) := by
        rw [VirtualAddresses.joinAddress?_eq, hentries, hport]
        rfl
      simp only [serverOf_names, hjoin]
      rfl
  · intro doc hdoc
    obtain ⟨S, hnames⟩ := tlsSan_documents hm h
    rw [hnames doc hdoc]
    rcases options.tlsSan.namesWith_cases definition.network.addresses S.tlsSan
      with ⟨names, hlist, hall⟩ | ⟨-, hnone⟩
    · refine ⟨names, hlist, fun address haddress => ?_⟩
      obtain ⟨entry, hentry, rfl⟩ := List.mem_map.1 haddress
      exact hall _ (VirtualAddresses.mem_addresses (hmem entry hentry))
    · have haddress := VirtualAddresses.mem_addresses (hmem first (by simp))
      rw [hnone] at haddress
      exact absurd haddress (by simp)

/-- The warning about a missing virtual address is given exactly if there is
none. -/
theorem missingApiVip_mem_iff {definition : ClusterDefinition} {options : ClusterOptions}
    {draw : Draw} {server agent : Except Failure RoleDocument} {c : Cluster}
    (hm : definition.isMultiNode = true)
    (h : derive definition options draw server agent = .ok c) :
    .missingApiVip ∈ c.warnings
      ↔ definition.network.joinAddress? definition.joinPort = none := by
  obtain ⟨S, A, i, -, -, -, rfl⟩ := derive_multi_ok hm h
  simp only [serverOf_names, List.mem_append, missingApiVip_not_mem_discarded, or_false]
  split <;> simp_all

end Cluster

open Cluster in
/-- **The addresses of the API agree**, whatever the files of the user hold and
whatever is done with addresses that are listed already. -/
theorem api_agrees (definition : ClusterDefinition) (options : ClusterOptions) (draw : Draw)
    (serverPath agentPath : String) (serverFile agentFile : FileText) (c : Cluster)
    (d : Distribution) (hd : Distribution.ofVersion? definition.version = some d)
    (h : derive definition options draw (RoleDocument.load serverPath serverFile)
      (RoleDocument.load agentPath agentFile) = .ok c) :
    ModesAgree definition c
      ∧ (2 ≤ definition.nodes.length →
        ((VirtualAddresses.ofCluster? definition d).isSome = true
            ↔ .missingApiVip ∉ c.warnings)
          ∧ ∀ v, VirtualAddresses.ofCluster? definition d = some v → Announces c v) := by
  refine ⟨modesAgree_derive h, fun hm => ⟨?_, fun v hv => announces_derive hd h hv⟩⟩
  have hmulti : definition.isMultiNode = true := decide_eq_true hm
  rw [missingApiVip_mem_iff hmulti h,
      ← VirtualAddresses.ofCluster?_eq_none_iff d definition.joinPort hmulti,
      Option.isSome_iff_ne_none]

/-- A cluster with two virtual addresses, one of which the user lists already:
it is listed once, and nodes join at the first. -/
theorem api_agrees_dualStack :
    let definition : ClusterDefinition :=
      ⟨"v1.30.3+k3s1", ⟨"10.0.0.1", "fd12::1", ""⟩,
        [⟨"a", .server, false⟩, ⟨"b", .agent, false⟩]⟩
    let options : ClusterOptions := ⟨.random, .deduplicate⟩
    let draw : Draw := Vector.replicate 32 7
    Distribution.ofVersion? definition.version = some .k3s
      ∧ ∃ c, Cluster.derive definition options draw
          (RoleDocument.load "server.yaml" (.text "tls-san: [fd12::1, x]\n"))
          (RoleDocument.load "agent.yaml" .missing) = .ok c
        ∧ Cluster.ModesAgree definition c
        ∧ ∃ v, VirtualAddresses.ofCluster? definition .k3s = some v ∧ Cluster.Announces c v := by
  intro definition options draw
  have hd : Distribution.ofVersion? definition.version = some .k3s := by decide
  have hok : (Cluster.derive definition options draw
      (RoleDocument.load "server.yaml" (.text "tls-san: [fd12::1, x]\n"))
      (RoleDocument.load "agent.yaml" .missing)).isOk = true := by decide +kernel
  obtain ⟨c, hc⟩ := exists_ok_of_isOk hok
  obtain ⟨hmodes, hmulti⟩ := api_agrees definition options draw _ _ _ _ c .k3s hd hc
  exact ⟨hd, c, hc, hmodes, _, rfl, (hmulti (by decide)).2 _ rfl⟩

end ClusterBoot
