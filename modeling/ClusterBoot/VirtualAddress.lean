/-
  ClusterBoot.VirtualAddress
  ────────────────────────────────
  **THE VIRTUAL ADDRESSES OF A CLUSTER'S API.**

  A cluster of several nodes is reached at virtual addresses, one for each IP
  version at most.  A manifest makes the cluster announce them and forward
  its API there.
-/
import ClusterBoot.ClusterDefinition
import ClusterBoot.Text.Lines

namespace ClusterBoot

/-! ## §1. Addresses. -/

/-- A virtual address and the length of its network part. -/
structure VirtualAddress where
  /-- The address. -/
  address : String
  /-- How many bits identify the network. -/
  networkBits : Nat
  deriving Repr, DecidableEq

/-- What the manifest of a cluster announces. -/
structure VirtualAddresses where
  /-- The addresses. -/
  addresses : List VirtualAddress
  /-- The IP versions, as the manifest names them. -/
  ipFamilies : List String
  /-- Whether the join port of RKE2 is forwarded too. -/
  rke2 : Bool
  deriving Repr, DecidableEq

namespace VirtualAddresses

/-- Whether there is more than one IP version. -/
def isDualStack (v : VirtualAddresses) : Bool :=
  1 < v.ipFamilies.length

/-- The addresses of a network, each with its IP version. -/
def ofNetwork (network : Network) : List (VirtualAddress × String) :=
  (if network.apiVip = "" then [] else [(⟨network.apiVip, 32⟩, "IPv4")])
    ++ (if network.apiVip6 = "" then [] else [(⟨network.apiVip6, 128⟩, "IPv6")])

/-- What the manifest of a cluster announces; nothing for a single node or
without addresses. -/
def ofCluster? (definition : ClusterDefinition) (d : Distribution) : Option VirtualAddresses :=
  let entries := ofNetwork definition.network
  if !definition.isMultiNode || entries.isEmpty then none
  else some ⟨entries.map (·.1), entries.map (·.2), d = .rke2⟩

/-! ## §2. The manifest. -/

/-- The pool of the addresses. -/
def poolLines (v : VirtualAddresses) : List String :=
  ["apiVersion: metallb.io/v1beta1",
   "kind: IPAddressPool",
   "metadata:",
   "  name: kubernetes-vip-ip-pool",
   "  namespace: metallb-system",
   "spec:",
   "  addresses:"]
  ++ v.addresses.map (fun a => "    - " ++ a.address ++ "/" ++ toString a.networkBits)
  ++ ["  serviceAllocation:",
      "    priority: 100",
      "    namespaces:",
      "      - default",
      "    serviceSelectors:",
      "      - matchExpressions:",
      "          - \x7bkey: \"serviceType\", operator: In, values: [kubernetes-vip]\x7d"]

/-- Their announcement. -/
def advertisementLines : List String :=
  ["apiVersion: metallb.io/v1beta1",
   "kind: L2Advertisement",
   "metadata:",
   "  name: kubernetes-vip-l2-adv",
   "  namespace: metallb-system",
   "spec:",
   "  ipAddressPools:",
   "    - kubernetes-vip-ip-pool"]

/-- The join port of RKE2. -/
def rke2PortLines : List String :=
  ["    - name: rke2-api",
   "      port: 9345",
   "      protocol: TCP",
   "      targetPort: 9345"]

/-- The port of the API. -/
def apiPortLines : List String :=
  ["    - name: k8s-api",
   "      port: 6443",
   "      protocol: TCP",
   "      targetPort: 6443"]

/-- The service behind the addresses. -/
def serviceLines (v : VirtualAddresses) : List String :=
  ["apiVersion: v1",
   "kind: Service",
   "metadata:",
   "  name: kubernetes-vip",
   "  namespace: default",
   "  labels:",
   "    serviceType: kubernetes-vip",
   "spec:",
   "  ports:"]
  ++ (if v.rke2 then rke2PortLines else [])
  ++ apiPortLines
  ++ ["  ipFamilyPolicy: " ++ (if v.isDualStack then "PreferDualStack" else "SingleStack"),
      "  ipFamilies:"]
  ++ v.ipFamilies.map (fun f => "    - " ++ f)
  ++ ["  publishNotReadyAddresses: true",
      "  selector:",
      "    node-role.kubernetes.io/control-plane: \"true\"",
      "  sessionAffinity: None",
      "  type: LoadBalancer"]

/-- The lines of the manifest. -/
def manifestLines (v : VirtualAddresses) : List String :=
  v.poolLines ++ ["---"] ++ advertisementLines ++ ["---"] ++ v.serviceLines

/-- The manifest. -/
def manifest (v : VirtualAddresses) : String :=
  Text.unlines v.manifestLines

end VirtualAddresses

end ClusterBoot
