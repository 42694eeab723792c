/-
  ClusterBoot.ClusterDefinition
  ────────────────────────────────
  **WHAT AN IMAGE IS ASKED TO RUN.**

  An image definition names the architecture and a cluster: the release, the
  addresses of its API, and its nodes.  A cluster of at least two nodes has
  several roles; every other cluster is a single server.
-/
import ClusterBoot.Platform

namespace ClusterBoot

/-! ## §1. Nodes. -/

/-- What a node does in a cluster. -/
inductive NodeKind where
  | server
  | agent
  deriving Repr, DecidableEq

/-- The name of a kind of node. -/
def NodeKind.name : NodeKind → String
  | server => "server"
  | agent => "agent"

/-- A node of a cluster. -/
structure Node where
  /-- Its host name. -/
  hostname : String
  /-- What it does. -/
  kind : NodeKind
  /-- Whether it is chosen to initialise the cluster. -/
  initialiser : Bool
  deriving Repr, DecidableEq

/-! ## §2. Clusters. -/

/-- The addresses of the API; an empty text is no address. -/
structure Network where
  /-- The virtual address, version 4. -/
  apiVip : String
  /-- The virtual address, version 6. -/
  apiVip6 : String
  /-- The host name. -/
  apiHost : String
  deriving Repr, DecidableEq

/-- No addresses. -/
def Network.empty : Network := ⟨"", "", ""⟩

/-- The addresses that are given, in order. -/
def Network.addresses (n : Network) : List String :=
  [n.apiVip, n.apiVip6, n.apiHost].filter (· ≠ "")

/-- A cluster that an image is asked to run. -/
structure ClusterDefinition where
  /-- The release, such as `v1.30.3+rke2r1`; empty if there is no cluster. -/
  version : String
  /-- The addresses of the API. -/
  network : Network
  /-- The nodes. -/
  nodes : List Node
  deriving Repr, DecidableEq

/-- Whether a cluster has several nodes. -/
def ClusterDefinition.isMultiNode (d : ClusterDefinition) : Bool :=
  2 ≤ d.nodes.length

/-- An image that is to be built. -/
structure ImageDefinition where
  /-- The architecture it is for. -/
  arch : Arch
  /-- The cluster it runs. -/
  cluster : ClusterDefinition
  deriving Repr, DecidableEq

end ClusterBoot
