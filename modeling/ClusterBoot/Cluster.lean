/-
  ClusterBoot.Cluster
  ────────────────────────────────
  **THE ROLE DOCUMENTS OF A CLUSTER.**

  From the definition of a cluster and the user's server and agent documents
  the documents of all roles are derived.  Servers and agents share the
  token, the plugins, the join address and the certificate names; the
  initialising server is a server that joins nobody.  A single server joins
  nobody and gets no token of its own.
-/
import ClusterBoot.ClusterDefinition
import ClusterBoot.Cni
import ClusterBoot.TlsSan
import ClusterBoot.Token

namespace ClusterBoot

/-! ## §1. Clusters. -/

/-- How a cluster is derived where the user leaves it open. -/
structure ClusterOptions where
  /-- Where a missing token comes from. -/
  token : TokenPolicy
  /-- What becomes of an address that is listed already. -/
  tlsSan : TlsSanPolicy
  deriving Repr, DecidableEq

/-- A drawn token, and addresses listed as often as they are given. -/
def ClusterOptions.default : ClusterOptions := ⟨.random, .append⟩

/-- A derived cluster. -/
structure Cluster where
  /-- The host name of the initialising node; empty for a single server. -/
  initialiser : String
  /-- The document of the initialising server, if there are several nodes. -/
  initialiserDocument : Option RoleDocument
  /-- The document of the servers. -/
  serverDocument : RoleDocument
  /-- The document of the agents, if there are several nodes. -/
  agentDocument : Option RoleDocument
  /-- What is odd about the cluster. -/
  warnings : List Warning
  deriving DecidableEq, Repr

/-- Whether a cluster has several nodes. -/
def Cluster.isMultiNode (c : Cluster) : Bool :=
  c.agentDocument.isSome

/-! ## §2. Parts of the derivation. -/

/-- The host name of the node that initialises a cluster: the first that is
chosen to, or else the first server. -/
def findInitialiser (nodes : List Node) : Option String :=
  ((nodes.find? (·.initialiser)).or (nodes.find? (·.kind = .server))).map (·.hostname)

/-- The address that nodes join at: the first virtual address that is given,
one of version 6 between brackets. -/
def Network.joinAddress? (network : Network) (port : Nat) : Option String :=
  if network.apiVip ≠ "" then
    some ("https://" ++ network.apiVip ++ ":" ++ toString port)
  else if network.apiVip6 ≠ "" then
    some ("https://[" ++ network.apiVip6 ++ "]:" ++ toString port)
  else none

/-- The port that nodes join at; a release without a distribution in its
version is taken for one of RKE2. -/
def ClusterDefinition.joinPort (d : ClusterDefinition) : Nat :=
  ((Distribution.ofVersion? d.version).getD .rke2).joinPort

namespace RoleDocument

/-- Select the default plugin if the document selects none. -/
def withDefaultPlugin (doc : RoleDocument) : RoleDocument :=
  if doc.cni = .absent then { doc with cni := .single defaultPlugin } else doc

/-- Give the document a token if it has none. -/
def withToken (token : String) (doc : RoleDocument) : RoleDocument :=
  if doc.token = none then { doc with token := some token } else doc

/-- Let the document join at an address, if there is one. -/
def withJoinAddress (address : Option String) (doc : RoleDocument) : RoleDocument :=
  match address with
  | some a => { doc with server := some a }
  | none => doc

/-- Add addresses to the list of a document, one after the other. -/
def addAddresses (policy : TlsSanPolicy) : List String → RoleDocument → RoleDocument × List Warning
  | [], doc => (doc, [])
  | a :: as, doc =>
      let (doc, warning) := doc.mergeTlsSan policy a
      let (doc, warnings) := doc.addAddresses policy as
      (doc, warning.toList ++ warnings)

/-- Add the addresses of the API to the list of a document, which becomes a
list if it was none. -/
def withApiAddresses (policy : TlsSanPolicy) (network : Network) (doc : RoleDocument) :
    RoleDocument × List Warning :=
  let (doc, warnings) := doc.addAddresses policy network.addresses
  let (doc, warning) := doc.normalizeTlsSan
  (doc, warnings ++ warning.toList)

/-- The document of the agents: what nodes share comes from the servers. -/
def shareFrom (server agent : RoleDocument) : RoleDocument :=
  { agent with
    token := server.token
    cni := server.cni
    server := server.server
    tlsSan := server.tlsSan }

end RoleDocument

/-! ## §3. Derivation. -/

namespace Cluster

/-- The cluster of a single server. -/
def single (definition : ClusterDefinition) (options : ClusterOptions) (server : RoleDocument) :
    Cluster :=
  let (doc, warnings) := server.withDefaultPlugin.withApiAddresses options.tlsSan definition.network
  { initialiser := ""
    initialiserDocument := none
    serverDocument := { doc with server := none }
    agentDocument := none
    warnings := warnings }

/-- The document of the servers of a cluster with several nodes. -/
def serverOf (definition : ClusterDefinition) (options : ClusterOptions) (draw : Draw)
    (server : RoleDocument) : RoleDocument × List Warning :=
  let address := definition.network.joinAddress? definition.joinPort
  let (doc, warnings) :=
    ((server.withDefaultPlugin.withToken (options.token.token draw)).withJoinAddress
      address).withApiAddresses options.tlsSan definition.network
  (doc, (if address = none then [.missingApiVip] else []) ++ warnings)

/-- Derive a cluster.  `server` and `agent` are what reading the user's
documents gives; the agent document only matters if there are several
nodes. -/
def derive (definition : ClusterDefinition) (options : ClusterOptions) (draw : Draw)
    (server agent : Except Failure RoleDocument) : Except Failure Cluster := do
  let server ← server
  if definition.isMultiNode then
    let (doc, warnings) := serverOf definition options draw server
    let agent ← agent
    match findInitialiser definition.nodes with
    | none => .error .noInitialiser
    | some initialiser =>
        return {
          initialiser := initialiser
          initialiserDocument := some { doc with server := none }
          serverDocument := doc
          agentDocument := some (doc.shareFrom agent)
          warnings := warnings }
  else return single definition options server

/-- The name of the server document's file. -/
def serverFile : String := "server.yaml"

/-- The name of the initialising server's file. -/
def initialiserFile : String := "init_server.yaml"

/-- The name of the agent document's file. -/
def agentFile : String := "agent.yaml"

/-- The role documents of a cluster with the names of their files. -/
def documents (c : Cluster) : List (String × RoleDocument) :=
  (serverFile, c.serverDocument)
    :: (c.initialiserDocument.map fun d => (initialiserFile, d)).toList
    ++ (c.agentDocument.map fun d => (agentFile, d)).toList

end Cluster

end ClusterBoot
