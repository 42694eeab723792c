/-
  ClusterBoot.Proofs.CertificateNames
  ────────────────────────────────
  **WHICH NAMES A CLUSTER PUTS INTO ITS CERTIFICATE.**

  The addresses of the API are added to the names that the user lists.  What
  becomes of the names is said at once for all addresses (`namesWith`), so
  `withApiAddresses_eq_names` replaces the loop over them, and the server
  document of any cluster can be written down without it: `serverOf_names` for
  several nodes, `single_names` for one.
-/
import ClusterBoot.Proofs.Derivation

namespace ClusterBoot

/-! ## §1. Adding addresses to a list. -/

namespace TlsSanPolicy

/-- A list of addresses with several more, one after the other. -/
def addAll (policy : TlsSanPolicy) (list : List String) : List String → List String
  | [] => list
  | a :: as => policy.addAll (policy.add a list) as

/-- Either policy lists the address, and nothing else is new. -/
theorem mem_add (policy : TlsSanPolicy) {a b : String} {list : List String} :
    b ∈ policy.add a list ↔ b ∈ list ∨ b = a := by
  cases policy with
  | append => simp [add]
  | deduplicate =>
      by_cases ha : a ∈ list
      · rw [add, if_pos ha]
        refine ⟨.inl, fun hb => ?_⟩
        rcases hb with hb | rfl
        · exact hb
        · exact ha
      · simp [add, ha]

theorem mem_addAll (policy : TlsSanPolicy) {b : String} {list addresses : List String} :
    b ∈ policy.addAll list addresses ↔ b ∈ list ∨ b ∈ addresses := by
  induction addresses generalizing list with
  | nil => simp [addAll]
  | cons a as ih => rw [addAll, ih, mem_add, List.mem_cons, or_assoc]

/-- Appending lists the addresses once more behind the others. -/
theorem addAll_append (list addresses : List String) :
    append.addAll list addresses = list ++ addresses := by
  induction addresses generalizing list with
  | nil => rw [addAll, List.append_nil]
  | cons a as ih =>
      rw [addAll, ih]
      show (list ++ [a]) ++ as = _
      rw [List.append_assoc, List.singleton_append]

/-- Leaving duplicates out lists behind the others what is not among them, each
address where it first occurs. -/
theorem addAll_deduplicate_eq (list addresses : List String) :
    deduplicate.addAll list addresses
      = list ++ (addresses.filter fun a => a ∉ list).eraseDups := by
  induction addresses generalizing list with
  | nil => simp [addAll]
  | cons a as ih =>
      rw [addAll, ih]
      by_cases ha : a ∈ list
      · rw [add, if_pos ha, List.filter_cons_of_neg (by simpa using ha)]
      · -- what is not among the longer list is not among the shorter one, and not the address
        have hrest : as.filter (fun b => b ∉ list ++ [a])
            = (as.filter fun b => b ∉ list).filter fun b => !b == a := by
          rw [List.filter_filter]
          apply List.filter_congr
          intro b _
          by_cases hb : b = a <;> simp [hb]
        rw [add, if_neg ha, hrest, List.filter_cons_of_pos (by simpa using ha), List.eraseDups_cons,
            List.append_assoc, List.singleton_append]

/-- Addresses that are listed already are all left out. -/
theorem addAll_deduplicate {list addresses : List String} (h : ∀ a ∈ addresses, a ∈ list) :
    deduplicate.addAll list addresses = list := by
  have hnone : addresses.filter (fun a => a ∉ list) = [] := by simpa using h
  rw [addAll_deduplicate_eq, hnone, List.eraseDups_nil, List.append_nil]

/-- The names of a setting with addresses added; without any, an absent setting
stays absent. -/
def namesWith (policy : TlsSanPolicy) (addresses : List String) (names : Setting) : Setting :=
  if names = .absent ∧ addresses = [] then .absent
  else .list (policy.addAll names.addresses addresses)

/-- Names with addresses added are a list unless there is nothing to list. -/
theorem namesWith_cases (policy : TlsSanPolicy) (addresses : List String) (names : Setting) :
    (∃ list, policy.namesWith addresses names = .list list ∧ ∀ a ∈ addresses, a ∈ list)
      ∨ (policy.namesWith addresses names = .absent ∧ addresses = []) := by
  unfold namesWith
  split
  next h => exact .inr ⟨rfl, h.2⟩
  next => exact .inl ⟨_, rfl, fun a ha => policy.mem_addAll.2 (.inr ha)⟩

/-- Names with addresses added are the old names and the addresses. -/
theorem mem_addresses_namesWith (policy : TlsSanPolicy) {addresses : List String} {names : Setting}
    {a : String} : a ∈ (policy.namesWith addresses names).addresses ↔
      a ∈ names.addresses ∨ a ∈ addresses := by
  unfold namesWith
  split
  next h => rw [h.1, h.2]; simp [Setting.addresses]
  next => exact policy.mem_addAll

end TlsSanPolicy

/-- Only addresses are added. -/
theorem Network.ne_empty_of_mem {network : Network} {a : String} (h : a ∈ network.addresses) :
    a ≠ "" := by
  simpa using (List.mem_filter.1 h).2

/-! ## §2. Adding addresses to a document. -/

namespace RoleDocument

/-- Names that are a list stay one, and nothing is dropped. -/
theorem addAddresses_list (policy : TlsSanPolicy) {addresses names : List String}
    {doc : RoleDocument} (hnames : doc.tlsSan = .list names) (h : ∀ a ∈ addresses, a ≠ "") :
    doc.addAddresses policy addresses
      = ({ doc with tlsSan := .list (policy.addAll names addresses) }, []) := by
  induction addresses generalizing doc names with
  | nil =>
      rw [addAddresses, TlsSanPolicy.addAll, ← hnames]
  | cons a as ih =>
      have hmerge : doc.mergeTlsSan policy a
          = ({ doc with tlsSan := .list (policy.add a names) }, none) := by
        rw [mergeTlsSan, if_neg (h a (by simp)), hnames]
        rfl
      have hmerged : ({ doc with tlsSan := .list (policy.add a names) } : RoleDocument).tlsSan
          = .list (policy.add a names) := rfl
      have hrest := ih hmerged fun b hb => h b (List.mem_cons_of_mem _ hb)
      simp only [addAddresses, hmerge, hrest, TlsSanPolicy.addAll]
      rfl

/-- Names that are no list become one when the first address is added; what
they were before is dropped if it was neither text nor list. -/
theorem withApiAddresses_eq_names (policy : TlsSanPolicy) (network : Network) (doc : RoleDocument) :
    doc.withApiAddresses policy network
      = ({ doc with tlsSan := policy.namesWith network.addresses doc.tlsSan },
          doc.tlsSan.discarded?.toList) := by
  have hne : ∀ a ∈ network.addresses, a ≠ "" := fun a ha => Network.ne_empty_of_mem ha
  unfold withApiAddresses TlsSanPolicy.namesWith
  cases haddresses : network.addresses with
  | nil =>
      by_cases habsent : doc.tlsSan = .absent
      · obtain ⟨token, cni, server, tlsSan, options⟩ := doc
        obtain rfl : tlsSan = .absent := habsent
        rfl
      · simp only [addAddresses, normalizeTlsSan, habsent, if_false, false_and]
        rfl
  | cons a as =>
      rw [haddresses] at hne
      have hmerge : doc.mergeTlsSan policy a
          = ({ doc with tlsSan := .list (policy.add a doc.tlsSan.addresses) },
            doc.tlsSan.discarded?) := if_neg (hne a (by simp))
      -- from the second address on the names are a list
      have hmerged : ({ doc with tlsSan := .list (policy.add a doc.tlsSan.addresses) } :
          RoleDocument).tlsSan = .list (policy.add a doc.tlsSan.addresses) := rfl
      have hrest := addAddresses_list policy hmerged
        fun b (hb : b ∈ as) => hne b (List.mem_cons_of_mem _ hb)
      rw [if_neg (by simp)]
      simp only [addAddresses, hmerge, hrest, TlsSanPolicy.addAll, normalizeTlsSan]
      simp [Setting.addresses, Setting.discarded?]

end RoleDocument

/-! ## §3. Adding addresses to a cluster. -/

namespace Cluster

/-- A setting that is dropped is no missing address. -/
theorem missingApiVip_not_mem_discarded (names : Setting) :
    Warning.missingApiVip ∉ names.discarded?.toList := by
  cases names <;> simp [Setting.discarded?]

/-- The server document of a cluster of several nodes, and what is odd about
it. -/
theorem serverOf_names (definition : ClusterDefinition) (options : ClusterOptions) (draw : Draw)
    (S : RoleDocument) :
    serverOf definition options draw S
      = ({ S with
            token := some (S.token.getD (options.token.token draw))
            cni := S.pluginsOrDefault
            server := (definition.network.joinAddress? definition.joinPort).or S.server
            tlsSan := options.tlsSan.namesWith definition.network.addresses S.tlsSan },
          (if definition.network.joinAddress? definition.joinPort = none then [.missingApiVip]
            else []) ++ S.tlsSan.discarded?.toList) := by
  simp only [serverOf, RoleDocument.withApiAddresses_eq_names, RoleDocument.withJoinAddress_eq,
    RoleDocument.withToken_eq, RoleDocument.withDefaultPlugin_eq]

/-- The cluster of a single server. -/
theorem single_names (definition : ClusterDefinition) (options : ClusterOptions)
    (S : RoleDocument) :
    single definition options S
      = { initialiser := ""
          initialiserDocument := none
          serverDocument :=
            { S with
              cni := S.pluginsOrDefault
              server := none
              tlsSan := options.tlsSan.namesWith definition.network.addresses S.tlsSan }
          agentDocument := none
          warnings := S.tlsSan.discarded?.toList } := by
  simp only [single, RoleDocument.withApiAddresses_eq_names, RoleDocument.withDefaultPlugin_eq]

/-- What a role document of several nodes is made of: `S` and `A` are the user's
documents of the servers and of the agents. -/
structure MadeFrom (definition : ClusterDefinition) (options : ClusterOptions) (draw : Draw)
    (S A doc : RoleDocument) : Prop where
  /-- The token is the one of the servers. -/
  token : doc.token = some (S.token.getD (options.token.token draw))
  /-- So are the plugins. -/
  cni : doc.cni = S.pluginsOrDefault
  /-- All but the initialising server join where the servers do. -/
  server : doc.server = none
    ∨ doc.server = (definition.network.joinAddress? definition.joinPort).or S.server
  /-- The names are those of the servers with the addresses added. -/
  tlsSan : doc.tlsSan = options.tlsSan.namesWith definition.network.addresses S.tlsSan
  /-- The options are the user's for one of the two. -/
  options : doc.options = S.options ∨ doc.options = A.options

/-- All role documents of a cluster of several nodes are made from the user's. -/
theorem madeFrom_documents {definition : ClusterDefinition} {options : ClusterOptions} {draw : Draw}
    {server agent : Except Failure RoleDocument} {c : Cluster}
    (hm : definition.isMultiNode = true)
    (h : derive definition options draw server agent = .ok c) :
    ∃ S A, server = .ok S ∧ agent = .ok A
      ∧ ∀ doc ∈ c.documents, MadeFrom definition options draw S A doc.2 := by
  obtain ⟨S, A, i, hS, hA, -, rfl⟩ := derive_multi_ok hm h
  refine ⟨S, A, hS, hA, fun doc hdoc => ?_⟩
  simp only [serverOf_names, documents, Option.map_some, Option.toList_some, List.cons_append,
    List.nil_append, List.mem_cons, List.not_mem_nil, or_false] at hdoc
  rcases hdoc with rfl | rfl | rfl
  · exact ⟨rfl, rfl, .inr rfl, rfl, .inl rfl⟩
  · exact ⟨rfl, rfl, .inl rfl, rfl, .inl rfl⟩
  · exact ⟨rfl, rfl, .inr rfl, rfl, .inr rfl⟩

/-- They have the same names. -/
theorem tlsSan_documents {definition : ClusterDefinition} {options : ClusterOptions} {draw : Draw}
    {server agent : Except Failure RoleDocument} {c : Cluster}
    (hm : definition.isMultiNode = true)
    (h : derive definition options draw server agent = .ok c) :
    ∃ S : RoleDocument, ∀ doc ∈ c.documents,
      doc.2.tlsSan = options.tlsSan.namesWith definition.network.addresses S.tlsSan := by
  obtain ⟨S, A, -, -, hdocs⟩ := madeFrom_documents hm h
  exact ⟨S, fun doc hdoc => (hdocs doc hdoc).tlsSan⟩

end Cluster

end ClusterBoot
