/-
  ClusterBoot.Proofs.ServerNames
  ────────────────────────────────
  **WHAT A SERVER LISTS FOR ITS CERTIFICATE, AND WHAT IS ODD ABOUT A CLUSTER.**

  The server document of a derived cluster lists the addresses of the user and
  behind them those of the API, all of them or those that are new.  A cluster has
  at most two warnings, and only the nodes, the virtual addresses and the form of
  the user's setting decide about them (`derive_names`); how many addresses the
  API has does not matter.
-/
import ClusterBoot.Proofs.NameRuns

namespace ClusterBoot

/-- There is no address to join at exactly if no virtual address is given. -/
theorem Network.joinAddress?_eq_none {network : Network} {port : Nat} :
    network.joinAddress? port = none ↔ network.apiVip = "" ∧ network.apiVip6 = "" := by
  unfold joinAddress?
  by_cases hvip : network.apiVip = "" <;> by_cases hvip6 : network.apiVip6 = "" <;>
    simp [hvip, hvip6]

namespace Cluster

/-- What is odd about several nodes without a virtual address. -/
def networkWarnings (definition : ClusterDefinition) : List Warning :=
  if 2 ≤ definition.nodes.length
      ∧ definition.network.apiVip = "" ∧ definition.network.apiVip6 = ""
    then [.missingApiVip] else []

theorem mem_networkWarnings {definition : ClusterDefinition} {w : Warning}
    (h : w ∈ networkWarnings definition) : w = .missingApiVip := by
  unfold networkWarnings at h
  split at h
  · exact List.mem_singleton.1 h
  · exact absurd h (by simp)

/-- The names of the server document and the warnings of a cluster, of one node or
of several. -/
theorem derive_names {definition : ClusterDefinition} {options : ClusterOptions} {draw : Draw}
    {server agent : Except Failure RoleDocument} {c : Cluster}
    (h : derive definition options draw server agent = .ok c) :
    ∃ S, server = .ok S
      ∧ c.serverDocument.tlsSan = options.tlsSan.namesWith definition.network.addresses S.tlsSan
      ∧ c.warnings = networkWarnings definition ++ S.tlsSan.discarded?.toList := by
  cases hm : definition.isMultiNode with
  | true =>
      have hnodes : 2 ≤ definition.nodes.length := of_decide_eq_true hm
      obtain ⟨S, A, i, hS, -, -, rfl⟩ := derive_multi_ok hm h
      refine ⟨S, hS, ?_, ?_⟩
      · simp only [serverOf_names]
      · simp only [serverOf_names, networkWarnings, Network.joinAddress?_eq_none, hnodes, true_and]
  | false =>
      have hnodes : ¬ 2 ≤ definition.nodes.length := of_decide_eq_false hm
      obtain ⟨S, hS, rfl⟩ := derive_single_ok hm h
      refine ⟨S, hS, ?_, ?_⟩
      · rw [single_names]
      · rw [single_names, networkWarnings, if_neg fun hmissing => hnodes hmissing.1,
            List.nil_append]

/-- The names that a cluster has and the warnings about it, where `names` is the
setting of the user, `base` the addresses that it lists, and `api` those of the
API. -/
structure NamesDerived (definition : ClusterDefinition) (policy : TlsSanPolicy) (names : Setting)
    (base api : List String) (c : Cluster) : Prop where
  /-- All addresses of the API are listed behind those of the user. -/
  appended : policy = .append → ¬ (names = .absent ∧ api = []) →
    c.serverDocument.tlsSan = .list (base ++ api)
  /-- Without duplicates those are that the user does not list, each where it first
  occurs. -/
  deduplicated : policy = .deduplicate → ¬ (names = .absent ∧ api = []) →
    c.serverDocument.tlsSan = .list (base ++ (api.filter fun a => a ∉ base).eraseDups)
  /-- There is a list unless there is nothing to list and the user has no setting. -/
  absent : c.serverDocument.tlsSan = .absent ↔ names = .absent ∧ api = []
  /-- Several nodes without a virtual address are odd. -/
  settingKept : (∀ old, names ≠ .other old) → c.warnings = networkWarnings definition
  /-- A setting that fits no form is odd too, and reported once. -/
  settingDropped : ∀ old, names = .other old →
    c.warnings = networkWarnings definition ++ [.discardedTlsSan old]
  /-- The warning shows the setting. -/
  shown : ∀ old, .discardedTlsSan old ∈ c.warnings → names = .other old
    ∧ (Warning.discardedTlsSan old).message
      = "ignoring invalid tls-san value " ++ old.describe ++ ", replacing it with a new list"
  /-- No empty address is ever offered. -/
  noEmptyAddress : .emptyAddress ∉ c.warnings

end Cluster

open Cluster in
/-- **The names and the warnings of a derived cluster**, whatever the files of the
user hold.  The addresses of the API are those that are not empty. -/
theorem names_derived (definition : ClusterDefinition) (options : ClusterOptions) (draw : Draw)
    (serverPath agentPath : String) (serverFile agentFile : FileText) (c : Cluster)
    (h : derive definition options draw (RoleDocument.load serverPath serverFile)
      (RoleDocument.load agentPath agentFile) = .ok c) :
    ∃ S base, RoleDocument.load serverPath serverFile = .ok S
      ∧ S.tlsSan.ListsAddresses base
      ∧ NamesDerived definition options.tlsSan S.tlsSan base
          ([definition.network.apiVip, definition.network.apiVip6,
            definition.network.apiHost].filter (· ≠ "")) c := by
  obtain ⟨S, hS, hnames, hwarnings⟩ := derive_names h
  refine ⟨S, S.tlsSan.addresses, hS, Setting.listsAddresses_iff.2 rfl, ?_⟩
  show NamesDerived definition options.tlsSan S.tlsSan S.tlsSan.addresses
    definition.network.addresses c
  -- what is listed is one expression for both policies
  have hlist : ¬ (S.tlsSan = .absent ∧ definition.network.addresses = []) →
      c.serverDocument.tlsSan
        = .list (options.tlsSan.addAll S.tlsSan.addresses definition.network.addresses) :=
    fun hsome => hnames.trans (if_neg hsome)
  have hdropped : ∀ w, w ∈ c.warnings → w = .missingApiVip
      ∨ ∃ old, w = .discardedTlsSan old ∧ S.tlsSan = .other old := by
    intro w hw
    rw [hwarnings, List.mem_append] at hw
    rcases hw with hw | hw
    · exact .inl (mem_networkWarnings hw)
    · cases hsetting : S.tlsSan <;> simp_all [Setting.discarded?]
  refine {
    appended := fun hpolicy hsome => ?_
    deduplicated := fun hpolicy hsome => ?_
    absent := ⟨fun habsent => ?_, fun hnone => ?_⟩
    settingKept := fun hkept => ?_
    settingDropped := fun old hold => ?_
    shown := fun old hold => ⟨?_, rfl⟩
    noEmptyAddress := fun hempty => ?_ }
  · rw [hlist hsome, hpolicy, TlsSanPolicy.addAll_append]
  · rw [hlist hsome, hpolicy, TlsSanPolicy.addAll_deduplicate_eq]
  · apply Classical.byContradiction
    intro hsome
    rw [hlist hsome] at habsent
    cases habsent
  · exact hnames.trans (if_pos hnone)
  · have hnone : S.tlsSan.discarded? = none := by
      cases hsetting : S.tlsSan with
      | other old => exact absurd hsetting (hkept old)
      | absent | single | list => rfl
    rw [hwarnings, hnone, Option.toList_none, List.append_nil]
  · rw [hwarnings, hold]
    rfl
  · rcases hdropped _ hold with hw | ⟨old', hw, hsetting⟩
    · cases hw
    · cases hw
      exact hsetting
  · rcases hdropped _ hempty with hw | ⟨old, hw, -⟩ <;> cases hw

/-- Two nodes without a virtual address, whose user lists names in a mapping. -/
theorem names_derived_mapping :
    let definition : ClusterDefinition :=
      ⟨"v1.30.3+k3s1", ⟨"", "", "api.example"⟩, [⟨"a", .server, false⟩, ⟨"b", .agent, false⟩]⟩
    let file : FileText := .text "tls-san: \x7bx: 1\x7d\n"
    ∃ c S base, Cluster.derive definition ⟨.placeholder, .deduplicate⟩ (Vector.replicate 32 0)
        (RoleDocument.load "server.yaml" file) (RoleDocument.load "agent.yaml" .missing) = .ok c
      ∧ RoleDocument.load "server.yaml" file = .ok S
      ∧ S.tlsSan.ListsAddresses base
      ∧ Cluster.NamesDerived definition .deduplicate S.tlsSan base ["api.example"] c := by
  intro definition file
  have hok : (Cluster.derive definition ⟨.placeholder, .deduplicate⟩ (Vector.replicate 32 0)
      (RoleDocument.load "server.yaml" file) (RoleDocument.load "agent.yaml" .missing)).isOk
        = true := by decide +kernel
  obtain ⟨c, hc⟩ := exists_ok_of_isOk hok
  obtain ⟨S, base, hS, hbase, hnames⟩ := names_derived definition ⟨.placeholder, .deduplicate⟩
    (Vector.replicate 32 0) _ _ _ _ c hc
  exact ⟨c, S, base, hc, hS, hbase, hnames⟩

end ClusterBoot
