/-
  ClusterBoot.Proofs.Rederivation
  ────────────────────────────────
  **DERIVING A CLUSTER FROM WHAT WAS DERIVED.**

  The role documents of a cluster may be given back as the user's documents.
  Everything that the first derivation filled in is then there already, so the
  second one changes nothing but the names in the certificate
  (`serverOf_again`, `single_again`), and those only if addresses are listed as
  often as they are given (`namesWith_again`).
-/
import ClusterBoot.Proofs.CertificateNames
import ClusterBoot.Proofs.RoleDocuments

namespace ClusterBoot

/-! ## §1. The parts of a derivation, once more. -/

/-- A setting with more names behind those that it lists. -/
def Setting.followedBy (addresses : List String) : Setting → Setting
  | .list names => .list (names ++ addresses)
  | names => names

namespace TlsSanPolicy

/-- Names that are a list, or absent because there is nothing to list. -/
def IsSettled (addresses : List String) (names : Setting) : Prop :=
  (∃ list, names = .list list) ∨ (names = .absent ∧ addresses = [])

theorem isSettled_namesWith (policy : TlsSanPolicy) (addresses : List String) (names : Setting) :
    IsSettled addresses (policy.namesWith addresses names) := by
  rcases policy.namesWith_cases addresses names with ⟨list, hlist, -⟩ | habsent
  · exact .inl ⟨list, hlist⟩
  · exact .inr habsent

/-- What is settled needs not be dropped. -/
theorem IsSettled.discarded?_eq {addresses : List String} {names : Setting}
    (h : IsSettled addresses names) : names.discarded? = none := by
  rcases h with ⟨list, rfl⟩ | ⟨rfl, -⟩ <;> rfl

/-- Addresses that were appended are appended again. -/
theorem IsSettled.namesWith_append {addresses : List String} {names : Setting}
    (h : IsSettled addresses names) :
    append.namesWith addresses names = names.followedBy addresses := by
  unfold namesWith
  rcases h with ⟨list, rfl⟩ | ⟨rfl, hnone⟩
  · rw [if_neg (by simp), addAll_append]
    rfl
  · rw [if_pos ⟨rfl, hnone⟩]
    rfl

/-- Addresses that were added are not added again if duplicates are left
out. -/
theorem namesWith_again (addresses : List String) (names : Setting) :
    deduplicate.namesWith addresses (deduplicate.namesWith addresses names)
      = deduplicate.namesWith addresses names := by
  rcases deduplicate.namesWith_cases addresses names with ⟨list, hlist, hall⟩ | ⟨habsent, hnone⟩
  · rw [hlist, namesWith, if_neg (by simp), Setting.addresses, addAll_deduplicate hall]
  · rw [habsent, namesWith, if_pos ⟨rfl, hnone⟩]

end TlsSanPolicy

namespace RoleDocument

/-- The plugins of a document with plugins are its own. -/
theorem pluginsOrDefault_again (doc : RoleDocument) {other : RoleDocument}
    (h : other.cni = doc.pluginsOrDefault) : other.pluginsOrDefault = doc.pluginsOrDefault := by
  have hpresent : doc.pluginsOrDefault ≠ .absent := by
    unfold pluginsOrDefault
    split
    next => simp
    next hcni => exact hcni
  rw [pluginsOrDefault, h, if_neg hpresent]

/-- The document with the addresses listed for the certificate once more. -/
def listedAgain (addresses : List String) (doc : RoleDocument) : RoleDocument :=
  { doc with tlsSan := doc.tlsSan.followedBy addresses }

end RoleDocument

/-! ## §2. Clusters derived again. -/

namespace Cluster

variable {definition : ClusterDefinition} {options options' : ClusterOptions} {draw : Draw}

/-- The document with the addresses of the API added to its names again. -/
def namesAgain (definition : ClusterDefinition) (options : ClusterOptions) (doc : RoleDocument) :
    RoleDocument :=
  { doc with tlsSan := options.tlsSan.namesWith definition.network.addresses doc.tlsSan }

/-- A server document that is derived again changes in its names only, and
nothing is odd about them. -/
theorem serverOf_again (htls : options'.tlsSan = options.tlsSan) (S : RoleDocument) :
    serverOf definition options' draw' (serverOf definition options draw S).1
      = (namesAgain definition options (serverOf definition options draw S).1,
          if definition.network.joinAddress? definition.joinPort = none then [.missingApiVip]
          else []) := by
  have hsettled : (options.tlsSan.namesWith definition.network.addresses S.tlsSan).discarded?
      = none := (options.tlsSan.isSettled_namesWith _ _).discarded?_eq
  rw [serverOf_names definition options' draw']
  simp only [serverOf_names definition options draw, namesAgain, Option.getD_some, htls, hsettled,
    Option.toList_none, List.append_nil]
  rw [RoleDocument.pluginsOrDefault_again S rfl]
  -- the join address is the network's in both derivations, or the user's in both
  cases definition.network.joinAddress? definition.joinPort <;> rfl

/-- So does the document of a single server. -/
theorem single_again (htls : options'.tlsSan = options.tlsSan) (S : RoleDocument) :
    single definition options' (single definition options S).serverDocument
      = { initialiser := ""
          initialiserDocument := none
          serverDocument := namesAgain definition options (single definition options S).serverDocument
          agentDocument := none
          warnings := [] } := by
  have hsettled : (options.tlsSan.namesWith definition.network.addresses S.tlsSan).discarded?
      = none := (options.tlsSan.isSettled_namesWith _ _).discarded?_eq
  rw [single_names definition options']
  simp only [single_names definition options, namesAgain, htls, hsettled, Option.toList_none]
  rw [RoleDocument.pluginsOrDefault_again S rfl]

/-- The names of every role document are those of the user's server document
with the addresses added. -/
theorem tlsSan_derive {server agent : Except Failure RoleDocument} {c : Cluster}
    (h : derive definition options draw server agent = .ok c) :
    ∃ S : RoleDocument, ∀ doc ∈ c.documents,
      doc.2.tlsSan = options.tlsSan.namesWith definition.network.addresses S.tlsSan := by
  cases hm : definition.isMultiNode with
  | true => exact tlsSan_documents hm h
  | false =>
      obtain ⟨S, -, rfl⟩ := derive_single_ok hm h
      refine ⟨S, fun doc hdoc => ?_⟩
      rw [single_names] at hdoc
      obtain rfl := List.mem_singleton.1 hdoc
      rfl

/-- A cluster is derived from its own documents, whatever tokens the second
derivation would give. -/
theorem derive_derive (draw' : Draw) {server agent : Except Failure RoleDocument} {c : Cluster}
    (htls : options'.tlsSan = options.tlsSan)
    (h : derive definition options draw server agent = .ok c)
    {agent' : Except Failure RoleDocument}
    (hagent : ∀ doc, c.agentDocument = some doc → agent' = .ok doc) :
    ∃ warnings, (∀ w ∈ warnings, w = .missingApiVip)
      ∧ derive definition options' draw' (.ok c.serverDocument) agent'
        = .ok {
            initialiser := c.initialiser
            initialiserDocument := c.initialiserDocument.map (namesAgain definition options)
            serverDocument := namesAgain definition options c.serverDocument
            agentDocument := c.agentDocument.map (namesAgain definition options)
            warnings := warnings } := by
  cases hm : definition.isMultiNode with
  | true =>
      obtain ⟨S, A, i, -, -, hinitialiser, rfl⟩ := derive_multi_ok hm h
      refine ⟨if definition.network.joinAddress? definition.joinPort = none then [.missingApiVip]
        else [], fun w hw => ?_, ?_⟩
      · split at hw
        · exact List.mem_singleton.1 hw
        · exact absurd hw (by simp)
      · rw [hagent _ rfl]
        simp only [derive, bind, Except.bind, hm, if_true, hinitialiser, serverOf_again htls, pure,
          Except.pure]
        rfl
  | false =>
      obtain ⟨S, -, rfl⟩ := derive_single_ok hm h
      refine ⟨[], by simp, ?_⟩
      simp only [derive, bind, Except.bind, hm, Bool.false_eq_true, if_false, pure, Except.pure,
        single_again htls]
      simp only [single_names, Option.map_none]

/-- How the documents of a cluster that was derived again differ from those
that it was derived from. -/
structure Rederived (definition : ClusterDefinition) (policy : TlsSanPolicy) (c c' : Cluster) :
    Prop where
  /-- The same node initialises the cluster. -/
  initialiser : c'.initialiser = c.initialiser
  /-- No names are dropped. -/
  nothingDropped : ∀ old, .discardedTlsSan old ∉ c'.warnings
  /-- If addresses are listed once, nothing changes. -/
  unchanged : policy = .deduplicate → c'.serverDocument = c.serverDocument
    ∧ c'.initialiserDocument = c.initialiserDocument ∧ c'.agentDocument = c.agentDocument
  /-- If they are listed as often as they are given, they are listed again. -/
  listedAgain : policy = .append →
    c'.serverDocument = c.serverDocument.listedAgain definition.network.addresses
    ∧ c'.initialiserDocument
      = c.initialiserDocument.map (RoleDocument.listedAgain definition.network.addresses)
    ∧ c'.agentDocument
      = c.agentDocument.map (RoleDocument.listedAgain definition.network.addresses)
  /-- The names that they are listed behind are a list, or absent because there
  are none to list. -/
  settled : ∀ doc ∈ c.documents,
    TlsSanPolicy.IsSettled definition.network.addresses doc.2.tlsSan

/-- Two changes of documents that are the same for all documents of a cluster. -/
theorem map_documents {c : Cluster} {f g : RoleDocument → RoleDocument}
    (h : ∀ doc ∈ c.documents, f doc.2 = g doc.2) :
    f c.serverDocument = g c.serverDocument
      ∧ c.initialiserDocument.map f = c.initialiserDocument.map g
      ∧ c.agentDocument.map f = c.agentDocument.map g := by
  refine ⟨h (serverFile, _) (by simp [documents]), ?_, ?_⟩
  · apply Option.map_congr
    intro doc hdoc
    exact h (initialiserFile, doc) (by simp [documents, hdoc])
  · apply Option.map_congr
    intro doc hdoc
    exact h (agentFile, doc) (by simp [documents, hdoc])

/-- Addresses that are listed once are not listed again. -/
theorem namesAgain_deduplicate {doc N : RoleDocument} (hpolicy : options.tlsSan = .deduplicate)
    (h : doc.tlsSan = options.tlsSan.namesWith definition.network.addresses N.tlsSan) :
    namesAgain definition options doc = doc := by
  rw [hpolicy] at h
  rw [namesAgain, hpolicy, h, TlsSanPolicy.namesWith_again, ← h]

/-- Addresses that are listed as often as they are given are listed again. -/
theorem namesAgain_append {doc : RoleDocument} (hpolicy : options.tlsSan = .append)
    (h : TlsSanPolicy.IsSettled definition.network.addresses doc.tlsSan) :
    namesAgain definition options doc = doc.listedAgain definition.network.addresses := by
  rw [namesAgain, hpolicy, h.namesWith_append]
  rfl

end Cluster

open Cluster in
/-- **A cluster is derived again from its own documents.**  The user's files
may be any that hold them. -/
theorem derive_again (definition : ClusterDefinition) (options options' : ClusterOptions)
    (draw draw' : Draw) (serverPath agentPath : String)
    (serverFile agentFile serverFile' agentFile' : FileText) (c : Cluster)
    (htls : options'.tlsSan = options.tlsSan)
    (h : derive definition options draw (RoleDocument.load serverPath serverFile)
      (RoleDocument.load agentPath agentFile) = .ok c)
    (hserver : RoleDocument.load serverPath serverFile' = .ok c.serverDocument)
    (hagent : ∀ doc, c.agentDocument = some doc →
      RoleDocument.load agentPath agentFile' = .ok doc) :
    ∃ c', derive definition options' draw' (RoleDocument.load serverPath serverFile')
        (RoleDocument.load agentPath agentFile') = .ok c'
      ∧ Rederived definition options.tlsSan c c' := by
  obtain ⟨warnings, hwarnings, hagain⟩ := derive_derive draw' htls h hagent
  obtain ⟨N, hnames⟩ := tlsSan_derive h
  have hsettled : ∀ doc ∈ c.documents,
      TlsSanPolicy.IsSettled definition.network.addresses doc.2.tlsSan := fun doc hdoc =>
    hnames doc hdoc ▸ options.tlsSan.isSettled_namesWith _ _
  rw [hserver]
  refine ⟨_, hagain, {
    initialiser := rfl
    nothingDropped := fun old hold => absurd (hwarnings _ hold) (by simp)
    unchanged := fun hpolicy => ?_
    listedAgain := fun hpolicy => ?_
    settled := hsettled }⟩
  · have hsame := map_documents (f := namesAgain definition options) (g := id)
      fun doc hdoc => namesAgain_deduplicate hpolicy (hnames doc hdoc)
    simpa only [Option.map_id, id] using hsame
  · exact map_documents fun doc hdoc => namesAgain_append hpolicy (hsettled doc hdoc)

/-- A file whose text is read holds what is read. -/
theorem RoleDocument.load_text (path : String) {text : String} {doc : RoleDocument}
    (h : RoleDocument.ofText text = .ok doc) : RoleDocument.load path (.text text) = .ok doc := by
  rw [load, h]

/-- A cluster whose token was drawn and whose join address the user gave,
derived again with the placeholder: the drawn token stays. -/
theorem derive_again_drawn :
    let definition : ClusterDefinition :=
      ⟨"v1.30.3+rke2r1", ⟨"", "", "api.example"⟩,
        [⟨"a", .server, false⟩, ⟨"b", .agent, false⟩]⟩
    let draw : Draw := Vector.replicate 32 7
    let token := "0707070707070707070707070707070707070707070707070707070707070707"
    let text := "token: '" ++ token ++ "'\ncni: canal\nserver: https://a:9345\n"
      ++ "tls-san: [x, api.example]\n"
    ∃ c c', Cluster.derive definition ⟨.random, .append⟩ draw
          (RoleDocument.load "server.yaml" (.text "server: https://a:9345\ntls-san: x\n"))
          (RoleDocument.load "agent.yaml" .missing) = .ok c
      ∧ RoleDocument.load "server.yaml" (.text text) = .ok c.serverDocument
      ∧ (∀ doc, c.agentDocument = some doc →
        RoleDocument.load "agent.yaml" (.text text) = .ok doc)
      ∧ Cluster.derive definition ⟨.placeholder, .append⟩ draw
          (RoleDocument.load "server.yaml" (.text text))
          (RoleDocument.load "agent.yaml" (.text text)) = .ok c'
      ∧ Cluster.Rederived definition .append c c' := by
  intro definition draw token text
  let server : RoleDocument := ⟨some token, .single "canal", some "https://a:9345",
    .list ["x", "api.example"], .empty⟩
  have hc : Cluster.derive definition ⟨.random, .append⟩ draw
      (RoleDocument.load "server.yaml" (.text "server: https://a:9345\ntls-san: x\n"))
      (RoleDocument.load "agent.yaml" .missing)
      = .ok ⟨"a", some { server with server := none }, server, some server, [.missingApiVip]⟩ :=
    RoleDocument.eq_ok_of_toOption (by decide +kernel)
  have hread : RoleDocument.ofText text = .ok server :=
    RoleDocument.eq_ok_of_toOption (by decide +kernel)
  have hload : ∀ path, RoleDocument.load path (.text text) = .ok server := fun path =>
    RoleDocument.load_text path hread
  have hagent : ∀ doc, some server = some doc →
      RoleDocument.load "agent.yaml" (.text text) = .ok doc := fun doc hdoc =>
    Option.some.inj hdoc ▸ hload _
  obtain ⟨c', hc', hrederived⟩ := derive_again definition ⟨.random, .append⟩ ⟨.placeholder, .append⟩
    draw draw _ _ _ _ _ _ _ rfl hc (hload _) hagent
  exact ⟨_, c', hc, hload _, hagent, hc', hrederived⟩

end ClusterBoot
