/-
  ClusterBoot.Proofs.ManifestRendering
  ────────────────────────────────
  **THE MANIFEST IS WHAT ITS TEMPLATE SAYS.**

  Whatever the addresses are and however many, the template gives one fixed
  text around the lines of the addresses and of the IP versions
  (`renders_vipManifest`).  For a cluster these are the virtual addresses of
  its network that are not empty (`manifest_rendering`).  The repository file
  of a SELinux policy comes from its template in the same way
  (`render_repository`).
-/
import ClusterBoot.Proofs.Templates.Sources
import ClusterBoot.Selinux
import ClusterBoot.VirtualAddress

namespace ClusterBoot

open Template (find? Renders)
open Text (Made MadeLines)

namespace Template.Renders

variable {scope : Scope} {rest : Template} {s : String}

/-- Listed items have a line each; the line before them is ended. -/
theorem listed {α : Type} {item : String} {path : List String} {body : Template} {xs : List α}
    {value : α → Value} {l : α → String}
    (hvalue : find? scope path = some (.list (xs.map value)))
    (hbody : ∀ x ∈ xs, Renders ((item, value x) :: scope) body (l x))
    (h : Renders scope rest s) :
    Renders scope (.listed item path body rest) ("\n" ++ (Text.unlines (xs.map l) ++ s)) := by
  have hlines : ∀ xs : List α,
      String.join (xs.map fun x => "\n" ++ l x) ++ "\n" = "\n" ++ Text.unlines (xs.map l) := by
    intro xs
    induction xs with
    | nil => rfl
    | cons x xs ih =>
        rw [List.map_cons, String.join_cons, String.append_assoc, ih, List.map_cons,
            Text.unlines_cons]
        simp only [String.append_assoc]
  refine .of_eq (.loop hvalue (fun x hx => (hbody x hx).newLine) h.newLine) ?_
  rw [← String.append_assoc, hlines, String.append_assoc]

end Template.Renders

namespace VirtualAddresses

/-! ## §1. The template. -/

/-- The values of an address. -/
def addressFields (a : VirtualAddress) : List (String × Template.Value) :=
  [("address", .text a.address), ("prefix_length", .number a.networkBits)]

/-- The values of a manifest. -/
def fields (v : VirtualAddresses) : Template.Scope :=
  [("addresses", .list (v.addresses.map fun a => .record (addressFields a))),
   ("ip_families", .list (v.ipFamilies.map .text)),
   ("rke2", .bool v.rke2)]

/-- The lines of a manifest around its lists. -/
def manifestAround (addresses families : List String) (rke2 dualStack : Bool) : List String :=
  ["apiVersion: metallb.io/v1beta1",
   "kind: IPAddressPool",
   "metadata:",
   "  name: kubernetes-vip-ip-pool",
   "  namespace: metallb-system",
   "spec:",
   "  addresses:"]
  ++ addresses
  ++ ["  serviceAllocation:",
      "    priority: 100",
      "    namespaces:",
      "      - default",
      "    serviceSelectors:",
      "      - matchExpressions:",
      "          - \x7bkey: \"serviceType\", operator: In, values: [kubernetes-vip]\x7d",
      "---",
      "apiVersion: metallb.io/v1beta1",
      "kind: L2Advertisement",
      "metadata:",
      "  name: kubernetes-vip-l2-adv",
      "  namespace: metallb-system",
      "spec:",
      "  ipAddressPools:",
      "    - kubernetes-vip-ip-pool",
      "---",
      "apiVersion: v1",
      "kind: Service",
      "metadata:",
      "  name: kubernetes-vip",
      "  namespace: default",
      "  labels:",
      "    serviceType: kubernetes-vip",
      "spec:",
      "  ports:"]
  ++ (if rke2 then
        ["    - name: rke2-api",
         "      port: 9345",
         "      protocol: TCP",
         "      targetPort: 9345"]
      else [])
  ++ ["    - name: k8s-api",
      "      port: 6443",
      "      protocol: TCP",
      "      targetPort: 6443",
      "  ipFamilyPolicy: " ++ (if dualStack then "PreferDualStack" else "SingleStack"),
      "  ipFamilies:"]
  ++ families
  ++ ["  publishNotReadyAddresses: true",
      "  selector:",
      "    node-role.kubernetes.io/control-plane: \"true\"",
      "  sessionAffinity: None",
      "  type: LoadBalancer"]

/-- The line of an address. -/
def addressLine (a : VirtualAddress) : String :=
  "    - " ++ a.address ++ "/" ++ toString a.networkBits

/-- The line of an IP version. -/
def familyLine (family : String) : String :=
  "    - " ++ family

theorem manifestLines_eq (v : VirtualAddresses) :
    v.manifestLines
      = manifestAround (v.addresses.map addressLine) (v.ipFamilies.map familyLine) v.rke2
          v.isDualStack := by
  simp only [manifestLines, poolLines, serviceLines, manifestAround, List.append_assoc]
  rfl

section
variable {v : VirtualAddresses} {rest : Template} {s : String}

theorem renders_rke2Ports (h : Renders v.fields rest s) :
    Renders v.fields (.rke2Ports rest)
      (Text.unlines (["  ports:"] ++ (if v.rke2 then rke2PortLines else [])) ++ s) := by
  have hmet : (Template.Condition.holds ["rke2"]).met? v.fields = some v.rke2 := rfl
  unfold Template.rke2Ports
  cases hrke2 : v.rke2 with
  | true =>
      rw [hrke2] at hmet
      refine .of_eq (.text _ (.yes hmet (.lines _ (.text _ .done)) h.newLine)) ?_
      simp [rke2PortLines, String.append_assoc, -String.reduceAppend]
  | false =>
      rw [hrke2] at hmet
      refine .of_eq (.text _ (.no hmet .done h.newLine)) ?_
      simp [String.append_assoc, -String.reduceAppend]

theorem renders_familyPolicy (h : Renders v.fields rest s) :
    Renders v.fields (.familyPolicy rest)
      (Text.unlines
        ["  ipFamilyPolicy: " ++ (if v.isDualStack then "PreferDualStack" else "SingleStack")]
        ++ s) := by
  have hmet : (Template.Condition.longer ["ip_families"] 1).met? v.fields = some v.isDualStack := by
    show some (decide (1 < (v.ipFamilies.map Template.Value.text).length)) = _
    rw [List.length_map]
    rfl
  unfold Template.familyPolicy
  cases hdual : v.isDualStack with
  | true =>
      rw [hdual] at hmet
      refine .of_eq (.text _ (.yes hmet (.text _ .done) h.newLine)) ?_
      simp [String.append_assoc, -String.reduceAppend]
  | false =>
      rw [hdual] at hmet
      refine .of_eq (.text _ (.no hmet (.text _ .done) h.newLine)) ?_
      simp [String.append_assoc, -String.reduceAppend]

end

theorem renders_vipManifest (v : VirtualAddresses) :
    Renders v.fields .vipManifest (Text.unlines v.manifestLines) := by
  have haddress : ∀ a ∈ v.addresses,
      Renders (("vip", .record (addressFields a)) :: v.fields)
        (.text "    - " (.insert ["vip", "address"] (.text "/"
          (.insert ["vip", "prefix_length"] .done)))) (addressLine a) := by
    intro a _
    refine .of_eq (.text _ (.insert rfl (.text _ (.insertNumber rfl .done)))) ?_
    simp only [addressLine, String.append_assoc, String.append_empty]
  have hfamily : ∀ family ∈ v.ipFamilies,
      Renders (("family", .text family) :: v.fields)
        (.text "    - " (.insert ["family"] .done)) (familyLine family) := by
    intro family _
    refine .of_eq (.text _ (.insert rfl .done)) ?_
    rw [String.append_empty, familyLine]
  unfold Template.vipManifest
  refine .of_eq (.lines _ (.text _ (.listed rfl haddress (.lines _ (renders_rke2Ports (.lines _
    (renders_familyPolicy (.text _ (.listed rfl hfamily (.lines _ .done)))))))))) ?_
  rw [manifestLines_eq, manifestAround]
  simp [rke2PortLines, String.append_assoc, -String.reduceAppend]

theorem render_manifest (v : VirtualAddresses) :
    Template.render "k8s-vip.yaml" v.fields = .ok v.manifest :=
  Template.render_of_renders rfl (by decide) v.renders_vipManifest

/-! ## §2. Lines. -/

/-- The texts that are put into a manifest. -/
def texts (v : VirtualAddresses) : List String :=
  v.addresses.map (·.address) ++ v.ipFamilies

/-- All that is put into a manifest: its texts, and how long the networks of its
addresses are. -/
def inserted (v : VirtualAddresses) : List String :=
  v.texts ++ v.addresses.map fun a => toString a.networkBits

theorem made_manifestLines (v : VirtualAddresses) : MadeLines v.inserted v.manifestLines := by
  have haddresses : MadeLines v.inserted (v.addresses.map addressLine) := by
    refine .of_forall fun l hl => ?_
    obtain ⟨a, ha, rfl⟩ := List.mem_map.1 hl
    have haddress : Made v.inserted a.address := .value (by
      simp only [inserted, texts, List.mem_append, List.mem_map]
      exact .inl (.inl ⟨a, ha, rfl⟩))
    have hbits : Made v.inserted (toString a.networkBits) := .value (by
      simp only [inserted, List.mem_append, List.mem_map]
      exact .inr ⟨a, ha, rfl⟩)
    exact (((Made.fixed (by decide)).append haddress).append (.fixed (by decide))).append hbits
  have hfamilies : MadeLines v.inserted (v.ipFamilies.map familyLine) := by
    refine .of_forall fun l hl => ?_
    obtain ⟨family, hfamily, rfl⟩ := List.mem_map.1 hl
    have hvalue : Made v.inserted family := .value (by
      simp only [inserted, texts, List.mem_append]
      exact .inl (.inr hfamily))
    exact (Made.fixed (by decide)).append hvalue
  rw [manifestLines_eq, manifestAround]
  cases v.rke2 <;> cases v.isDualStack <;>
    (repeat' first | assumption | constructor) <;> decide

/-- How long a network is never breaks a line. -/
theorem inserted_unbroken {v : VirtualAddresses} (h : ∀ s ∈ v.texts, '\n' ∉ s.toList) :
    ∀ s ∈ v.inserted, '\n' ∉ s.toList := by
  refine List.forall_mem_append.2 ⟨h, fun s hs => ?_⟩
  obtain ⟨a, -, rfl⟩ := List.mem_map.1 hs
  show '\n' ∉ (Nat.repr a.networkBits).toList
  rw [Nat.toList_repr]
  intro hfeed
  have hdigit := Nat.isDigit_of_mem_toDigits (by decide) (by decide) hfeed
  exact absurd hdigit (by decide)

/-- How a manifest comes from its template and its values. -/
structure Rendering (v : VirtualAddresses) : Prop where
  /-- The template gives the manifest, which is the text that a build writes. -/
  rendered : Template.render "k8s-vip.yaml" v.fields = .ok v.manifest
  /-- The manifest is its lines, with a line feed after each. -/
  text : v.manifest = Text.unlines v.manifestLines
  /-- Within fixed lines, there is one line for each address and one for each IP
  version, in their order. -/
  lines : v.manifestLines
    = manifestAround (v.addresses.map addressLine) (v.ipFamilies.map familyLine) v.rke2
        (1 < v.ipFamilies.length)
  /-- If no text has a line feed in it, these are the lines of the manifest. -/
  whole : (∀ s ∈ v.texts, '\n' ∉ s.toList) →
    Text.pieces '\n' v.manifest = v.manifestLines ++ [""]

theorem rendering (v : VirtualAddresses) : Rendering v where
  rendered := v.render_manifest
  text := rfl
  lines := v.manifestLines_eq
  whole := fun h => v.made_manifestLines.whole (inserted_unbroken h)

/-! ## §3. The manifest of a cluster. -/

/-- The lines of a cluster's manifest: its network has an address of version 4, one
of version 6, or both. -/
def clusterLines (network : Network) (d : Distribution) : List String :=
  manifestAround
    ((if network.apiVip = "" then [] else ["    - " ++ network.apiVip ++ "/32"])
      ++ (if network.apiVip6 = "" then [] else ["    - " ++ network.apiVip6 ++ "/128"]))
    ((if network.apiVip = "" then [] else ["    - IPv4"])
      ++ (if network.apiVip6 = "" then [] else ["    - IPv6"]))
    (d = .rke2) (network.apiVip ≠ "" ∧ network.apiVip6 ≠ "")

theorem map_ofNetwork (network : Network) (f : VirtualAddress × String → String) :
    (ofNetwork network).map f
      = (if network.apiVip = "" then [] else [f (⟨network.apiVip, 32⟩, "IPv4")])
        ++ (if network.apiVip6 = "" then [] else [f (⟨network.apiVip6, 128⟩, "IPv6")]) := by
  unfold ofNetwork
  split <;> split <;> rfl

/-- A network has no entries if both its addresses are empty. -/
theorem isEmpty_ofNetwork (network : Network) :
    (ofNetwork network).isEmpty = decide (network.apiVip = "" ∧ network.apiVip6 = "") := by
  unfold ofNetwork
  by_cases hvip : network.apiVip = "" <;> by_cases hvip6 : network.apiVip6 = "" <;>
    simp [hvip, hvip6]

/-- It has two entries if neither is. -/
theorem isDualStack_ofNetwork (network : Network) :
    decide (1 < (ofNetwork network).length)
      = decide (network.apiVip ≠ "" ∧ network.apiVip6 ≠ "") := by
  unfold ofNetwork
  by_cases hvip : network.apiVip = "" <;> by_cases hvip6 : network.apiVip6 = "" <;>
    simp [hvip, hvip6]

theorem manifestLines_ofNetwork (network : Network) (d : Distribution) :
    manifestLines ⟨(ofNetwork network).map (·.1), (ofNetwork network).map (·.2), d = .rke2⟩
      = clusterLines network d := by
  have hbits : ∀ address, addressLine ⟨address, 32⟩ = "    - " ++ address ++ "/32"
      ∧ addressLine ⟨address, 128⟩ = "    - " ++ address ++ "/128" := by
    intro address
    have hfour : "/32" = "/" ++ toString (32 : Nat) := by decide
    have hsix : "/128" = "/" ++ toString (128 : Nat) := by decide
    rw [hfour, hsix, ← String.append_assoc, ← String.append_assoc]
    exact ⟨rfl, rfl⟩
  have haddresses : ((ofNetwork network).map (·.1)).map addressLine
      = (if network.apiVip = "" then [] else ["    - " ++ network.apiVip ++ "/32"])
        ++ (if network.apiVip6 = "" then [] else ["    - " ++ network.apiVip6 ++ "/128"]) := by
    rw [List.map_map, map_ofNetwork]
    simp only [Function.comp_apply, hbits]
  have hfamilies : ((ofNetwork network).map (·.2)).map familyLine
      = (if network.apiVip = "" then [] else ["    - IPv4"])
        ++ (if network.apiVip6 = "" then [] else ["    - IPv6"]) := by
    rw [List.map_map, map_ofNetwork]
    rfl
  have hdual : isDualStack
        ⟨(ofNetwork network).map (·.1), (ofNetwork network).map (·.2), d = .rke2⟩
      = decide (network.apiVip ≠ "" ∧ network.apiVip6 ≠ "") := by
    rw [← isDualStack_ofNetwork, isDualStack, List.length_map]
  rw [manifestLines_eq, clusterLines, haddresses, hfamilies, hdual]

theorem ofCluster?_eq (definition : ClusterDefinition) (d : Distribution) :
    ofCluster? definition d
      = if 2 ≤ definition.nodes.length
          ∧ ¬ (definition.network.apiVip = "" ∧ definition.network.apiVip6 = "") then
          some ⟨(ofNetwork definition.network).map (·.1),
            (ofNetwork definition.network).map (·.2), d = .rke2⟩
        else none := by
  have hmulti : definition.isMultiNode = decide (2 ≤ definition.nodes.length) := rfl
  show (if !definition.isMultiNode || (ofNetwork definition.network).isEmpty then none else _) = _
  rw [hmulti, isEmpty_ofNetwork]
  by_cases hm : 2 ≤ definition.nodes.length <;>
    by_cases hempty : definition.network.apiVip = "" ∧ definition.network.apiVip6 = "" <;>
      simp [hm, hempty]

/-- The manifest of a cluster, if it has one. -/
theorem manifest_ofCluster? (definition : ClusterDefinition) (d : Distribution) :
    (ofCluster? definition d).map manifest
      = if 2 ≤ definition.nodes.length
          ∧ ¬ (definition.network.apiVip = "" ∧ definition.network.apiVip6 = "") then
          some (Text.unlines (clusterLines definition.network d))
        else none := by
  rw [ofCluster?_eq]
  split
  next => rw [Option.map_some, manifest, manifestLines_ofNetwork]
  next => rfl

/-- **The manifest is what its template says**, and that of a cluster lists the
addresses of its network that are not empty. -/
theorem manifest_rendering (v : VirtualAddresses) (definition : ClusterDefinition)
    (d : Distribution) :
    Rendering v
      ∧ (ofCluster? definition d).map manifest
        = (if 2 ≤ definition.nodes.length
            ∧ ¬ (definition.network.apiVip = "" ∧ definition.network.apiVip6 = "") then
            some (Text.unlines (clusterLines definition.network d))
          else none)
      ∧ (ofCluster? definition d).map (fun v => Template.render "k8s-vip.yaml" v.fields)
        = ((ofCluster? definition d).map manifest).map .ok := by
  refine ⟨v.rendering, manifest_ofCluster? definition d, ?_⟩
  rw [Option.map_map]
  exact Option.map_congr fun v _ => v.render_manifest

end VirtualAddresses

/-! ## §4. The repository file of a policy. -/

namespace SelinuxPolicy

/-- The values of a repository file. -/
def fields (p : SelinuxPolicy) : Template.Scope :=
  [("name", .text p.package),
   ("url", .text p.url),
   ("priority", .number p.priority),
   ("gpgcheck", .bool !p.unsigned),
   ("gpgkey", .text (signingKeyDir ++ "/" ++ signingKeyFile))]

theorem renders_repository (p : SelinuxPolicy) :
    Renders p.fields .repository p.repositoryText := by
  have hmet : (Template.Condition.holds ["gpgcheck"]).met? p.fields = some !p.unsigned := rfl
  have hsignature : Renders p.fields (.choice (.holds ["gpgcheck"])
      (.lines ["gpgcheck=1"] (.text "gpgkey=file://" (.insert ["gpgkey"] .done)))
      (.text "gpgcheck=0" .done) (.newLine .done)) (Text.unlines p.signatureLines) := by
    unfold signatureLines
    cases hunsigned : p.unsigned with
    | true =>
        rw [hunsigned] at hmet
        refine .of_eq (.no hmet (.text _ .done) (.newLine .done)) ?_
        simp [-String.reduceAppend]
    | false =>
        rw [hunsigned] at hmet
        refine .of_eq (.yes hmet (.lines _ (.text _ (.insert rfl .done))) (.newLine .done)) ?_
        simp [String.append_assoc, -String.reduceAppend]
  unfold Template.repository repositoryText repositoryLines
  refine .of_eq (.text _ (.insert rfl (.lines _ (.text _ (.insert rfl (.newLine (.text _
    (.insert rfl (.lines _ (.text _ (.insertNumber rfl (.newLine hsignature)))))))))))) ?_
  simp [String.append_assoc, -String.reduceAppend]

/-- The repository file is what its template says, too. -/
theorem render_repository (p : SelinuxPolicy) :
    Template.render "selinux.repo" p.fields = .ok p.repositoryText :=
  Template.render_of_renders rfl (by decide) p.renders_repository

end SelinuxPolicy

end ClusterBoot
