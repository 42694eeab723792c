/-
  ClusterBoot.Proofs.SingleServers
  ────────────────────────────────
  **A SINGLE SERVER DEPENDS ON LITTLE.**

  A cluster of fewer than two nodes is derived from the server document, the
  network and the policy on names alone (`derive_single`, `single_congr`).
  Nothing of what several nodes need can get into it or make it fail: the nodes,
  the release, the random bytes and the file of the agents may be anything.
-/
import ClusterBoot.Proofs.CertificateNames

namespace ClusterBoot

namespace Cluster

/-! ## §1. What the derivation looks at. -/

theorem isMultiNode_of_lt {definition : ClusterDefinition} (h : definition.nodes.length < 2) :
    definition.isMultiNode = false :=
  decide_eq_false (Nat.not_le.2 h)

/-- Of the definition only the network counts, and of the options only the
policy on names. -/
theorem single_congr {definition definition' : ClusterDefinition} {options options' : ClusterOptions}
    (hnetwork : definition'.network = definition.network)
    (hpolicy : options'.tlsSan = options.tlsSan) (S : RoleDocument) :
    single definition' options' S = single definition options S := by
  rw [single_names, single_names, hnetwork, hpolicy]

/-! ## §2. What the cluster is. -/

/-- A cluster of a single server: `S` is the document of the user. -/
structure IsSingleServer (network : Network) (policy : TlsSanPolicy) (S : RoleDocument)
    (c : Cluster) : Prop where
  /-- Nobody is elected to initialise it. -/
  noInitialiser : c.initialiser = "" ∧ c.initialiserDocument = none
  /-- It has no agents. -/
  noAgents : c.agentDocument = none
  /-- The server joins nobody. -/
  joinsNobody : c.serverDocument.server = none
  /-- The token is the user's, and none is made up. -/
  token : c.serverDocument.token = S.token
  /-- So are all options. -/
  options : c.serverDocument.options = S.options
  /-- The plugins are the user's if there are any. -/
  pluginsGiven : S.cni ≠ .absent → c.serverDocument.cni = S.cni
  /-- They are the default ones if there are none. -/
  pluginsDefault : S.cni = .absent → c.serverDocument.cni = .single "canal"
  /-- Every address of the API is listed for the certificate beside the names
  of the user. -/
  names : ∀ a, a ∈ c.serverDocument.tlsSan.addresses ↔
    a ∈ S.tlsSan.addresses ∨ a ∈ network.addresses
  /-- The names are those of the user with the addresses added. -/
  namesAdded : c.serverDocument.tlsSan = policy.namesWith network.addresses S.tlsSan
  /-- Nobody misses a virtual address. -/
  noMissingApiVip : Warning.missingApiVip ∉ c.warnings

theorem isSingleServer_single (definition : ClusterDefinition) (options : ClusterOptions)
    (S : RoleDocument) :
    IsSingleServer definition.network options.tlsSan S (single definition options S) := by
  rw [single_names]
  exact {
    noInitialiser := ⟨rfl, rfl⟩
    noAgents := rfl
    joinsNobody := rfl
    token := rfl
    options := rfl
    pluginsGiven := fun hcni => if_neg hcni
    pluginsDefault := fun hcni => if_pos hcni
    names := fun a => options.tlsSan.mem_addresses_namesWith
    namesAdded := rfl
    noMissingApiVip := missingApiVip_not_mem_discarded S.tlsSan }

end Cluster

/-! ## §3. Two derivations of a single server. -/

open Cluster in
/-- **A single server is isolated**: two derivations with the same server file,
network and policy on names have the same result, whatever else differs.  They
fail exactly if the server file cannot be read. -/
theorem single_server_isolated (definition definition' : ClusterDefinition)
    (options options' : ClusterOptions) (draw draw' : Draw)
    (serverPath agentPath agentPath' : String) (serverFile agentFile agentFile' : FileText)
    (hnodes : definition.nodes.length < 2) (hnodes' : definition'.nodes.length < 2)
    (hnetwork : definition'.network = definition.network)
    (hpolicy : options'.tlsSan = options.tlsSan) :
    derive definition' options' draw' (RoleDocument.load serverPath serverFile)
        (RoleDocument.load agentPath' agentFile')
      = derive definition options draw (RoleDocument.load serverPath serverFile)
        (RoleDocument.load agentPath agentFile)
    ∧ (∀ failure, RoleDocument.load serverPath serverFile = .error failure →
        derive definition options draw (RoleDocument.load serverPath serverFile)
          (RoleDocument.load agentPath agentFile) = .error failure)
    ∧ ∀ S, RoleDocument.load serverPath serverFile = .ok S →
        ∃ c, derive definition options draw (RoleDocument.load serverPath serverFile)
            (RoleDocument.load agentPath agentFile) = .ok c
          ∧ IsSingleServer definition.network options.tlsSan S c := by
  have hm := isMultiNode_of_lt hnodes
  have hm' := isMultiNode_of_lt hnodes'
  rw [derive_single options draw _ _ hm, derive_single options' draw' _ _ hm']
  refine ⟨?_, fun failure hload => ?_, fun S hload => ?_⟩
  · rw [funext (single_congr hnetwork hpolicy)]
  · rw [hload]
    rfl
  · rw [hload]
    exact ⟨_, rfl, isSingleServer_single definition options S⟩

/-- A server without nodes, and an agent with another release, another policy on
tokens and a file of agents that cannot be read. -/
theorem single_server_isolated_agent_unreadable :
    let network : Network := ⟨"192.168.122.100", "", "api.example"⟩
    let definition : ClusterDefinition := ⟨"v1.30.3+rke2r1", network, []⟩
    let definition' : ClusterDefinition := ⟨"v1.29.0+k3s1", network, [⟨"a", .agent, true⟩]⟩
    let file : FileText := .text "server: https://old:9345\ntls-san: a, b\nselinux: true\n"
    Cluster.derive definition' ⟨.placeholder, .append⟩ (Vector.replicate 32 7)
        (RoleDocument.load "server.yaml" file) (RoleDocument.load "agent.yaml" .unreadable)
      = Cluster.derive definition .default (Vector.replicate 32 0)
        (RoleDocument.load "server.yaml" file) (RoleDocument.load "agent.yaml" .missing)
    ∧ ∃ S c, Cluster.derive definition .default (Vector.replicate 32 0)
          (RoleDocument.load "server.yaml" file) (RoleDocument.load "agent.yaml" .missing) = .ok c
        ∧ Cluster.IsSingleServer network .append S c := by
  intro network definition definition' file
  have hread : (RoleDocument.load "server.yaml" file).isOk = true := by decide +kernel
  obtain ⟨S, hS⟩ := exists_ok_of_isOk hread
  obtain ⟨heq, -, hok⟩ := single_server_isolated definition definition' .default
    ⟨.placeholder, .append⟩ (Vector.replicate 32 0) (Vector.replicate 32 7) "server.yaml"
    "agent.yaml" "agent.yaml" file .missing .unreadable (by decide) (by decide) rfl rfl
  obtain ⟨c, hc, hserver⟩ := hok S hS
  exact ⟨heq, S, c, hc, hserver⟩

end ClusterBoot
