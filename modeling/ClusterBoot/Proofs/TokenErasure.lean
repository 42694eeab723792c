/-
  ClusterBoot.Proofs.TokenErasure
  ────────────────────────────────
  **WHAT IS LEFT WITHOUT THE TOKENS.**

  Documents that are equal without their tokens are written as mappings that
  differ under the token's key only (`toMapping_agrees`), and clusters that are
  derived from such documents are equal without their tokens, whatever tokens
  are drawn (`derive_withoutTokens`).  A cluster without its tokens is built
  like the cluster: nothing after the role documents looks at one
  (`finish_withoutTokens`).
-/
import ClusterBoot.Build
import ClusterBoot.Proofs.CertificateNames
import ClusterBoot.Proofs.RoleDocuments

namespace ClusterBoot

open Yaml (Entry)

/-- Two results that a function makes equal failed in the same way, or both
have a value. -/
theorem Except.cases_of_map_eq {ε α β : Type} {f : α → β} {x x' : Except ε α}
    (h : x'.map f = x.map f) :
    (∃ e, x = .error e ∧ x' = .error e) ∨ ∃ a a', x = .ok a ∧ x' = .ok a' ∧ f a' = f a := by
  cases x with
  | error e =>
      cases x' with
      | error e' =>
          obtain rfl := Except.error.inj h
          exact .inl ⟨_, rfl, rfl⟩
      | ok a' => exact absurd h (by simp [Except.map])
  | ok a =>
      cases x' with
      | error e' => exact absurd h (by simp [Except.map])
      | ok a' => exact .inr ⟨a, a', rfl, rfl, Except.ok.inj h⟩

/-! ## §1. Documents. -/

namespace RoleDocument

/-- A document without its token. -/
def withoutToken (doc : RoleDocument) : RoleDocument :=
  { doc with token := none }

/-- Documents that are equal without their tokens have the same other fields. -/
theorem withoutToken_eq_iff {a b : RoleDocument} :
    a.withoutToken = b.withoutToken
      ↔ a.cni = b.cni ∧ a.server = b.server ∧ a.tlsSan = b.tlsSan ∧ a.options = b.options := by
  obtain ⟨token, cni, server, tlsSan, options⟩ := a
  obtain ⟨token', cni', server', tlsSan', options'⟩ := b
  simp [withoutToken]

/-- Two mappings differ at most under the token's key. -/
def AgreeButToken (entries entries' : List Entry) : Prop :=
  entries'.filter (fun e => e.1 ≠ .str tokenKey) = entries.filter fun e => e.1 ≠ .str tokenKey

/-- The named values but for the token. -/
theorem filter_namedValues (doc : RoleDocument) :
    doc.namedValues.filter (fun e => e.1 ≠ tokenKey)
      = withOptional tlsSanKey doc.tlsSan.toValue?
        (withOptional cniKey doc.cni.toValue?
          (withOptional serverKey (doc.server.map .str)
            (doc.options.entries.filter fun e => e.1 ≠ tokenKey))) := by
  have hkept : ∀ {key : String} {value : Option Yaml.Value} {es : List Named}, key ≠ tokenKey →
      Ascending es → (withOptional key value es).filter (fun e => e.1 ≠ tokenKey)
        = withOptional key value (es.filter fun e => e.1 ≠ tokenKey) := fun hkey hes =>
    filter_withOptional_of_kept (k := fun name => name ≠ tokenKey) (by simp [hkey]) hes
  have hdropped : ∀ {value : Option Yaml.Value} {es : List Named},
      (withOptional tokenKey value es).filter (fun e => e.1 ≠ tokenKey)
        = es.filter fun e => e.1 ≠ tokenKey :=
    filter_withOptional_of_dropped (k := fun name => name ≠ tokenKey) (by simp)
  -- the entries ascend after each of the four additions
  have htoken : Ascending (withOptional tokenKey (doc.token.map .str) doc.options.entries) :=
    ascending_withOptional doc.options.ascending
  have hserver : Ascending (withOptional serverKey (doc.server.map .str) _) :=
    ascending_withOptional htoken
  have hcni : Ascending (withOptional cniKey doc.cni.toValue? _) := ascending_withOptional hserver
  rw [namedValues, hkept (by decide) hcni, hkept (by decide) hserver, hkept (by decide) htoken,
    hdropped]

/-- Documents that are equal without their tokens are written as mappings that
differ at most under the token's key. -/
theorem toMapping_agrees {a b : RoleDocument} (h : a.withoutToken = b.withoutToken) :
    AgreeButToken a.toMapping b.toMapping := by
  obtain ⟨hcni, hserver, htlsSan, hoptions⟩ := withoutToken_eq_iff.1 h
  have hmapping : ∀ doc : RoleDocument, doc.toMapping.filter (fun e => e.1 ≠ .str tokenKey)
      = (doc.namedValues.filter fun e => e.1 ≠ tokenKey).map fun e => (.str e.1, e.2) := by
    intro doc
    rw [toMapping, List.filter_map]
    simp [Function.comp_def]
  rw [AgreeButToken, hmapping, hmapping, filter_namedValues, filter_namedValues, hcni, hserver,
    htlsSan, hoptions]

end RoleDocument

/-! ## §2. Clusters. -/

namespace Cluster

open RoleDocument (withoutToken withoutToken_eq_iff)

/-- A cluster without the tokens of its documents. -/
def withoutTokens (c : Cluster) : Cluster :=
  { c with
    initialiserDocument := c.initialiserDocument.map withoutToken
    serverDocument := c.serverDocument.withoutToken
    agentDocument := c.agentDocument.map withoutToken }

@[simp] theorem withoutTokens_isMultiNode (c : Cluster) :
    c.withoutTokens.isMultiNode = c.isMultiNode :=
  Option.isSome_map

variable {definition : ClusterDefinition} {options options' : ClusterOptions}
  {S S' A A' : RoleDocument}

/-- The role documents without their tokens, under the same names. -/
theorem withoutTokens_documents (c : Cluster) :
    c.withoutTokens.documents = c.documents.map fun doc => (doc.1, doc.2.withoutToken) := by
  obtain ⟨initialiser, initialiserDocument, serverDocument, agentDocument, warnings⟩ := c
  cases initialiserDocument <;> cases agentDocument <;> rfl

/-- A server document is derived from the other fields of the user's alone,
but for its token. -/
theorem serverOf_withoutToken (draw draw' : Draw) (htls : options'.tlsSan = options.tlsSan)
    (h : S'.withoutToken = S.withoutToken) :
    (serverOf definition options' draw' S').1.withoutToken
        = (serverOf definition options draw S).1.withoutToken
      ∧ (serverOf definition options' draw' S').2 = (serverOf definition options draw S).2 := by
  obtain ⟨hcni, hserver, htlsSan, hoptions⟩ := withoutToken_eq_iff.1 h
  rw [serverOf_names, serverOf_names, withoutToken_eq_iff, RoleDocument.pluginsOrDefault,
    RoleDocument.pluginsOrDefault, hcni, hserver, htlsSan, hoptions, htls]
  exact ⟨⟨rfl, rfl, rfl, rfl⟩, rfl⟩

/-- So is the cluster of a single server. -/
theorem single_withoutTokens (htls : options'.tlsSan = options.tlsSan)
    (h : S'.withoutToken = S.withoutToken) :
    (single definition options' S').withoutTokens
      = (single definition options S).withoutTokens := by
  obtain ⟨hcni, hserver, htlsSan, hoptions⟩ := withoutToken_eq_iff.1 h
  rw [single_names, single_names, RoleDocument.pluginsOrDefault, RoleDocument.pluginsOrDefault,
    hcni, htlsSan, htls]
  simp [withoutTokens, withoutToken, hoptions]

/-- Clusters that are derived from documents that are equal without their
tokens are equal without theirs, and fail in the same way. -/
theorem derive_withoutTokens (draw draw' : Draw)
    {server server' agent agent' : Except Failure RoleDocument}
    (htls : options'.tlsSan = options.tlsSan)
    (hserver : server'.map withoutToken = server.map withoutToken)
    (hagent : agent'.map withoutToken = agent.map withoutToken) :
    (derive definition options' draw' server' agent').map withoutTokens
      = (derive definition options draw server agent).map withoutTokens := by
  rcases Except.cases_of_map_eq hserver with ⟨f, rfl, rfl⟩ | ⟨S, S', rfl, rfl, hS⟩
  · rfl
  cases hm : definition.isMultiNode with
  | false =>
      have hderive : ∀ options draw S agent, derive definition options draw (.ok S) agent
          = .ok (single definition options S) := by
        intro options draw S agent
        simp [derive, hm, bind, Except.bind, pure, Except.pure]
      rw [hderive, hderive, Except.map, Except.map, single_withoutTokens htls hS]
  | true =>
      rcases Except.cases_of_map_eq hagent with ⟨f, rfl, rfl⟩ | ⟨A, A', rfl, rfl, hA⟩
      · simp [derive, hm, bind, Except.bind, Except.map]
      obtain ⟨hdocument, hwarnings⟩ : (serverOf definition options' draw' S').1.withoutToken
            = (serverOf definition options draw S).1.withoutToken
          ∧ (serverOf definition options' draw' S').2 = (serverOf definition options draw S).2 :=
        serverOf_withoutToken draw draw' htls hS
      obtain ⟨hcni, hserver, htlsSan, hoptions⟩ := withoutToken_eq_iff.1 hdocument
      obtain ⟨-, -, -, hagentOptions⟩ := withoutToken_eq_iff.1 hA
      -- the other two documents have no field but the token that is not one of these
      cases hi : findInitialiser definition.nodes with
      | none => simp [derive, hm, hi, bind, Except.bind, Except.map]
      | some i =>
          simp [derive, hm, hi, bind, Except.bind, pure, Except.pure, Except.map, withoutTokens,
            withoutToken, RoleDocument.shareFrom, hcni, hserver, htlsSan, hoptions, hwarnings,
            hagentOptions]

end Cluster

/-! ## §3. Builds. -/

namespace Build

open RoleDocument (withoutToken)

/-- Whether two files are read as documents that are equal without their tokens
decides whether the clusters are. -/
theorem clusterFor_withoutTokens {definition : ClusterDefinition}
    {options options' : ClusterOptions} {tree tree' : FileTree} {configDir : String} (draw draw' : Draw)
    (htls : options'.tlsSan = options.tlsSan)
    (hdocuments : ∀ file ∈ [Cluster.serverFile, Cluster.agentFile],
      (loadUserDocument tree' configDir file).map withoutToken
        = (loadUserDocument tree configDir file).map withoutToken) :
    (clusterFor tree' definition configDir options' draw').map Cluster.withoutTokens
      = (clusterFor tree definition configDir options draw).map Cluster.withoutTokens :=
  Cluster.derive_withoutTokens draw draw' htls (hdocuments _ (by simp)) (hdocuments _ (by simp))

/-- The artefacts are selected without looking at a token. -/
theorem select_withoutToken (d : Distribution) (arch : Arch) (server : RoleDocument) :
    select d arch server.withoutToken = select d arch server := by
  cases d <;> rfl

/-- Nothing after the role documents looks at a token. -/
theorem finish_withoutTokens (d : Downloader) (r : BuildRequest) (distribution : Distribution)
    (cluster : Cluster) (documents : List String) (selection : Selection) :
    finish d r distribution cluster.withoutTokens documents selection
      = finish d r distribution cluster documents selection := by
  unfold finish selinuxFor InstallValues.ofCluster InstallVariant.ofCluster
  rw [Cluster.withoutTokens_isMultiNode]
  rfl

section
variable {c c' : Cluster}

/-- For clusters that are equal without their tokens the same is selected. -/
theorem select_congr (h : c'.withoutTokens = c.withoutTokens) (d : Distribution) (arch : Arch) :
    select d arch c'.serverDocument = select d arch c.serverDocument := by
  rw [← select_withoutToken, ← select_withoutToken _ _ c.serverDocument]
  exact congrArg (fun c => select d arch c.serverDocument) h

/-- They are finished in the same way. -/
theorem finish_congr (h : c'.withoutTokens = c.withoutTokens) (d : Downloader) (r : BuildRequest)
    (distribution : Distribution) (documents : List String) (selection : Selection) :
    finish d r distribution c' documents selection
      = finish d r distribution c documents selection := by
  rw [← finish_withoutTokens d r distribution c', h, finish_withoutTokens]

end

end Build

end ClusterBoot
