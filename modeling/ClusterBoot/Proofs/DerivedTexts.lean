/-
  ClusterBoot.Proofs.DerivedTexts
  ────────────────────────────────
  **WHAT IS MADE UP FOR A CLUSTER MEANS ITSELF.**

  Without documents of the user, the role documents of a cluster hold texts
  only: a token, an address to join at, the default plugin and the addresses of
  the API.  A drawn token is any 64 hexadecimal digits and may look like a
  number of any kind; an address may be a word such as `no` or `null`.  None of
  them is written so that it is read as something else: that takes a plus sign
  or `0o` at the front of a text (`faithful_of_front`).
-/
import ClusterBoot.Proofs.CertificateNames
import ClusterBoot.Proofs.Representation
import ClusterBoot.Proofs.TokenDigits

namespace ClusterBoot

open Yaml (Value readsAsInt readsAsReal)

/-! ## §1. Texts that mean themselves. -/

/-- A text that begins neither with a plus sign nor with `0o` means itself,
written with or without quotes. -/
theorem faithful_of_front {s : String} (hplus : s.toList.head? ≠ some '+')
    (hoctal : ¬ ['0', 'o'] <+: s.toList) : (Value.str s).faithful = true := by
  have hint : readsAsInt s = false := by
    rw [Bool.eq_false_iff]
    intro h
    obtain ⟨c, d, r, hs, ⟨rfl, rfl⟩ | ⟨rfl, -⟩, -⟩ := Yaml.readsAsInt_shape h
    · exact hoctal ⟨r, hs.symm⟩
    · exact hplus (by rw [hs]; rfl)
  have hreal : readsAsReal s = false := by
    rw [Bool.eq_false_iff]
    intro h
    have hfirst : ∀ w ∈ ["+.inf", "+.Inf", "+.INF"], w.toList.head? = some '+' := by decide
    exact hplus (hfirst s (by simpa [readsAsReal] using h))
  rw [Value.faithful, hint, hreal]
  rfl

/-- A text that may be an address of the API: letters, digits, points, hyphens
and colons, and no `0o` in front. -/
structure IsAddress (a : String) : Prop where
  chars : ∀ c ∈ a.toList, c.isAlphanum = true ∨ c = '.' ∨ c = '-' ∨ c = ':'
  notOctal : ¬ ['0', 'o'] <+: a.toList

theorem IsAddress.faithful {a : String} (h : IsAddress a) : (Value.str a).faithful = true := by
  refine faithful_of_front (fun hplus => ?_) h.notOctal
  have hno : ¬ ('+'.isAlphanum = true ∨ '+' = '.' ∨ '+' = '-' ∨ '+' = ':') := by decide
  exact hno (h.chars '+' (List.mem_of_mem_head? hplus))

/-- The address that nodes join at begins with its scheme. -/
theorem Network.joinAddress?_faithful {network : Network} {port : Nat} {a : String}
    (h : network.joinAddress? port = some a) : (Value.str a).faithful = true := by
  have hscheme : ∃ r, a.toList = 'h' :: r := by
    unfold Network.joinAddress? at h
    split at h
    · obtain rfl := Option.some.inj h
      exact ⟨_, by simp only [String.toList_append]; rfl⟩
    · split at h
      · obtain rfl := Option.some.inj h
        exact ⟨_, by simp only [String.toList_append]; rfl⟩
      · cases h
  obtain ⟨r, hr⟩ := hscheme
  exact faithful_of_front (by simp [hr]) (by simp [hr])

/-! ## §2. Tokens. -/

/-- No token looks like a number that is not quoted. -/
theorem TokenPolicy.token_faithful (policy : TokenPolicy) (draw : Draw) :
    (Value.str (policy.token draw)).faithful = true := by
  cases policy with
  | placeholder =>
      show (Value.str placeholderToken).faithful = true
      decide
  | random =>
      refine faithful_of_front (fun hplus => ?_) fun hoctal => ?_
      · have hno : '+' ∉ Text.Hex.digits := by decide
        exact hno (Draw.mem_token (List.mem_of_mem_head? hplus))
      · have hno : 'o' ∉ Text.Hex.digits := by decide
        exact hno (Draw.mem_token (hoctal.subset (by simp)))

/-! ## §3. Values that are made of such texts. -/

/-- A text that means itself, or a list of such texts. -/
inductive MeansItself : Value → Prop where
  | text {s : String} (h : (Value.str s).faithful = true) : MeansItself (.str s)
  | texts {items : List String} (h : ∀ s ∈ items, (Value.str s).faithful = true) :
      MeansItself (.list (items.map .str))

theorem MeansItself.shape {v : Value} (h : MeansItself v) :
    (∃ s, v = .str s) ∨ ∃ items : List String, v = .list (items.map .str) := by
  cases h with
  | text => exact .inl ⟨_, rfl⟩
  | texts => exact .inr ⟨_, rfl⟩

theorem MeansItself.faithful {v : Value} (h : MeansItself v) : v.faithful = true := by
  cases h with
  | text hs => exact hs
  | texts hs =>
      rw [Value.faithful, Value.faithfulItems_iff]
      intro x hx
      obtain ⟨s, hmem, rfl⟩ := List.mem_map.1 hx
      exact hs s hmem

theorem keysFitItems_texts (items : List String) :
    Value.keysFitItems (items.map .str) = true := by
  induction items with
  | nil => rfl
  | cons s items ih => rw [List.map_cons, Value.keysFitItems, ih]; rfl

theorem MeansItself.keysFit {v : Value} (h : MeansItself v) : v.keysFit = true := by
  cases h with
  | text => rfl
  | texts => exact keysFitItems_texts _

/-! ## §4. Documents without options. -/

namespace RoleDocument

/-- A document that is read as it was written: its text is one document, which
holds texts and lists of texts only. -/
structure ReadsBack (doc : RoleDocument) : Prop where
  /-- The text is read as the mapping that was written. -/
  parsed : Yaml.documents? doc.toText = some [.map doc.toMapping]
  /-- No value in it is a number, a truth value, null or a mapping. -/
  texts : ∀ e ∈ doc.toMapping,
    (∃ s, e.2 = .str s) ∨ ∃ items : List String, e.2 = .list (items.map .str)
  /-- So the document is the same. -/
  same : ofText doc.toText = .ok doc

/-- A document that sets the four keys only, to texts that mean themselves. -/
structure IsPlain (doc : RoleDocument) : Prop where
  options : doc.options = .empty
  token : ∀ v, doc.token.map Value.str = some v → MeansItself v
  server : ∀ v, doc.server.map Value.str = some v → MeansItself v
  cni : ∀ v, doc.cni.toValue? = some v → MeansItself v
  tlsSan : ∀ v, doc.tlsSan.toValue? = some v → MeansItself v
  sound : doc.Sound

variable {doc : RoleDocument}

theorem IsPlain.mem_namedValues (h : doc.IsPlain) {e : Named} (he : e ∈ doc.namedValues) :
    e.1 ∈ reservedKeys ∧ MeansItself e.2 := by
  rcases RoleDocument.mem_namedValues he with
    ⟨hkey, hv⟩ | ⟨hkey, hv⟩ | ⟨hkey, hv⟩ | ⟨hkey, hv⟩ | hmem
  · exact ⟨hkey ▸ by decide, h.tlsSan _ hv⟩
  · exact ⟨hkey ▸ by decide, h.cni _ hv⟩
  · exact ⟨hkey ▸ by decide, h.server _ hv⟩
  · exact ⟨hkey ▸ by decide, h.token _ hv⟩
  · rw [h.options] at hmem
    cases hmem

/-- The four keys mean themselves, and are short. -/
theorem reservedKeys_fit : ∀ key ∈ reservedKeys, (Value.str key).faithful = true
    ∧ (Value.write 0 (.str key)).length ≤ Yaml.Lexer.keyReach := by
  decide

theorem IsPlain.faithful (h : doc.IsPlain) : (Value.map doc.toMapping).faithful = true := by
  rw [Value.faithful, Value.faithfulEntries_iff]
  intro e he
  obtain ⟨n, hn, rfl⟩ := List.mem_map.1 he
  obtain ⟨hkey, hv⟩ := h.mem_namedValues hn
  exact ⟨(reservedKeys_fit n.1 hkey).1, hv.faithful⟩

theorem IsPlain.keysFit (h : doc.IsPlain) : (Value.map doc.toMapping).keysFit = true := by
  have hall : ∀ ns : List Named, (∀ n ∈ ns, n.1 ∈ reservedKeys ∧ MeansItself n.2) →
      Value.keysFitEntries (ns.map entryOf) = true := by
    intro ns
    induction ns with
    | nil => intro _; rfl
    | cons n ns ih =>
        intro hns
        obtain ⟨hkey, hv⟩ := hns n List.mem_cons_self
        have hfit : decide ((Value.write 0 (.str n.1)).length ≤ Yaml.Lexer.keyReach) = true :=
          decide_eq_true (reservedKeys_fit n.1 hkey).2
        rw [List.map_cons, entryOf, Value.keysFitEntries, hfit, hv.keysFit,
          ih fun m hm => hns m (List.mem_cons_of_mem n hm)]
        rfl
  exact hall doc.namedValues fun n hn => h.mem_namedValues hn

/-- **A document that sets the four keys only, to texts that mean themselves, is
read as it was written.** -/
theorem IsPlain.readsBack (h : doc.IsPlain) : doc.ReadsBack := by
  have hparsed : Yaml.documents? doc.toText = some [.map doc.toMapping] := by
    rw [toText, Yaml.documents?_emit h.sound.wellFormed, if_pos h.keysFit,
      (Value.reread_eq_self_iff h.sound.wellFormed).2 h.faithful]
  refine ⟨hparsed, fun e he => ?_, ?_⟩
  · obtain ⟨n, hn, rfl⟩ := List.mem_map.1 he
    exact (h.mem_namedValues hn).2.shape
  · rw [ofText, hparsed]
    exact h.sound.represented.written.again

end RoleDocument

/-! ## §5. The documents of a cluster. -/

namespace Cluster

open RoleDocument (ReadsBack IsPlain)

variable {definition : ClusterDefinition} {options : ClusterOptions} {draw : Draw}

/-- The names of a cluster are absent or a list of its addresses. -/
theorem namesWith_absent_cases (policy : TlsSanPolicy) (addresses : List String) :
    policy.namesWith addresses .absent = .absent
      ∨ ∃ names, policy.namesWith addresses .absent = .list names ∧ ∀ a ∈ names, a ∈ addresses := by
  rcases policy.namesWith_cases addresses .absent with ⟨names, hnames, -⟩ | ⟨habsent, -⟩
  · refine .inr ⟨names, hnames, fun a ha => ?_⟩
    have hmem : a ∈ (policy.namesWith addresses .absent).addresses := by
      rw [hnames]
      exact ha
    exact (policy.mem_addresses_namesWith.1 hmem).resolve_left (by simp [Setting.addresses])
  · exact .inl habsent

/-- What the role documents of a cluster are made of without documents of the
user. -/
structure IsMadeUp (definition : ClusterDefinition) (options : ClusterOptions) (draw : Draw)
    (doc : RoleDocument) : Prop where
  token : doc.token = none ∨ doc.token = some (options.token.token draw)
  server : doc.server = none ∨ doc.server = definition.network.joinAddress? definition.joinPort
  cni : doc.cni = .single defaultPlugin
  tlsSan : doc.tlsSan = options.tlsSan.namesWith definition.network.addresses .absent
  options : doc.options = .empty

theorem IsMadeUp.sound {doc : RoleDocument} (h : IsMadeUp definition options draw doc) :
    doc.Sound where
  cni := ⟨.str defaultPlugin, .str _, h.cni.symm⟩
  tlsSan := by
    rw [h.tlsSan]
    rcases namesWith_absent_cases options.tlsSan definition.network.addresses with
      hnone | ⟨names, hnames, -⟩
    · exact ⟨.null, .null, hnone.symm⟩
    · refine ⟨.list (names.map .str), .list fun x hx => ?_, ?_⟩
      · obtain ⟨s, -, rfl⟩ := List.mem_map.1 hx
        exact .str s
      · rw [hnames, RoleDocument.ofValue_texts]
  keys := by
    rw [h.options]
    exact fun e he => nomatch he
  values := by
    rw [h.options]
    exact fun e he => nomatch he

theorem IsMadeUp.isPlain {doc : RoleDocument} (h : IsMadeUp definition options draw doc)
    (haddresses : ∀ a ∈ definition.network.addresses, IsAddress a) : doc.IsPlain where
  options := h.options
  token v hv := by
    obtain ⟨t, ht, rfl⟩ := Option.map_eq_some_iff.1 hv
    rcases h.token with hnone | hsome
    · rw [hnone] at ht
      cases ht
    · rw [hsome] at ht
      cases ht
      exact .text (options.token.token_faithful draw)
  server v hv := by
    obtain ⟨a, ha, rfl⟩ := Option.map_eq_some_iff.1 hv
    rcases h.server with hnone | hjoin
    · rw [hnone] at ha
      cases ha
    · exact .text (Network.joinAddress?_faithful (hjoin ▸ ha))
  cni v hv := by
    rw [h.cni] at hv
    cases hv
    exact .text (by decide)
  tlsSan v hv := by
    rw [h.tlsSan] at hv
    rcases namesWith_absent_cases options.tlsSan definition.network.addresses with
      hnone | ⟨names, hnames, hmem⟩
    · rw [hnone] at hv
      cases hv
    · rw [hnames] at hv
      cases hv
      exact .texts fun a ha => (haddresses a (hmem a ha)).faithful
  sound := h.sound

/-- The role documents of a cluster without documents of the user hold what is
made up for them and nothing else. -/
theorem isMadeUp_documents {c : Cluster}
    (h : derive definition options draw (.ok .empty) (.ok .empty) = .ok c) :
    ∀ doc ∈ c.documents, IsMadeUp definition options draw doc.2 := by
  cases hm : definition.isMultiNode with
  | false =>
      obtain ⟨S, hS, rfl⟩ := derive_single_ok hm h
      obtain rfl := Except.ok.inj hS
      intro doc hdoc
      rw [single_names] at hdoc
      obtain rfl := List.mem_singleton.1 hdoc
      exact ⟨.inl rfl, .inl rfl, rfl, rfl, rfl⟩
  | true =>
      obtain ⟨S, A, hS, hA, hdocs⟩ := madeFrom_documents hm h
      obtain rfl := Except.ok.inj hS
      obtain rfl := Except.ok.inj hA
      intro doc hdoc
      obtain ⟨htoken, hcni, hserver, htlsSan, hoptions⟩ := hdocs doc hdoc
      -- the user's documents are both empty
      refine ⟨.inr htoken, hserver.imp_right fun hjoin => ?_, hcni, htlsSan, or_self_iff.1 hoptions⟩
      rw [hjoin]
      exact Option.or_none

/-- Every role document of a cluster of several nodes has the token. -/
theorem token_documents {c : Cluster} (hm : definition.isMultiNode = true)
    (h : derive definition options draw (.ok .empty) (.ok .empty) = .ok c) :
    ∀ doc ∈ c.documents, doc.2.token = some (options.token.token draw) := by
  obtain ⟨S, A, hS, -, hdocs⟩ := madeFrom_documents hm h
  obtain rfl := Except.ok.inj hS
  exact fun doc hdoc => (hdocs doc hdoc).token

end Cluster

open Cluster in
/-- **Without documents of the user every role document is read as it was
written**, whatever bytes are drawn and whatever texts the addresses are.  A
token that was drawn comes back as the same 64 hexadecimal digits. -/
theorem made_up_read_back (definition : ClusterDefinition) (options : ClusterOptions)
    (draw : Draw) (serverPath agentPath : String) (c : Cluster)
    (haddresses : ∀ a ∈ [definition.network.apiVip, definition.network.apiVip6,
      definition.network.apiHost], IsAddress a)
    (h : derive definition options draw (RoleDocument.load serverPath .missing)
      (RoleDocument.load agentPath .missing) = .ok c) :
    (∀ doc ∈ c.documents, doc.2.ReadsBack)
    ∧ (options.token = .random → 2 ≤ definition.nodes.length → ∀ doc ∈ c.documents,
        ∃ again, RoleDocument.ofText doc.2.toText = .ok again ∧ again.token = some draw.token)
    ∧ draw.token.length = 64 ∧ ∀ ch ∈ draw.token.toList, ch ∈ "0123456789abcdef".toList := by
  have hgiven : ∀ a ∈ definition.network.addresses, IsAddress a :=
    fun a ha => haddresses a (List.mem_filter.1 ha).1
  have hreads : ∀ doc ∈ c.documents, doc.2.ReadsBack :=
    fun doc hdoc => ((isMadeUp_documents h doc hdoc).isPlain hgiven).readsBack
  refine ⟨hreads, fun hrandom hnodes doc hdoc => ?_, draw.length_token, fun ch => Draw.mem_token⟩
  have htoken := token_documents (decide_eq_true hnodes) h doc hdoc
  rw [hrandom] at htoken
  exact ⟨doc.2, (hreads doc hdoc).same, htoken⟩

/-- A token that looks like a floating-point number, and addresses that look
like a whole number, a time and null. -/
theorem made_up_read_back_numericToken :
    let definition : ClusterDefinition :=
      ⟨"v1.30.3+k3s1", ⟨"12", "12:30:45", "null"⟩,
        [⟨"a", .server, false⟩, ⟨"b", .agent, false⟩]⟩
    let draw : Draw := (Vector.replicate 32 0x12).set 30 0x1e
    ∃ c, Cluster.derive definition .default draw (RoleDocument.load "server.yaml" .missing)
          (RoleDocument.load "agent.yaml" .missing) = .ok c
      ∧ ∀ doc ∈ c.documents, ∃ again,
          RoleDocument.ofText doc.2.toText = .ok again ∧ again.token = some draw.token := by
  intro definition draw
  have hok : (Cluster.derive definition .default draw (RoleDocument.load "server.yaml" .missing)
      (RoleDocument.load "agent.yaml" .missing)).isOk = true := by decide +kernel
  obtain ⟨c, hc⟩ := exists_ok_of_isOk hok
  have haddress : ∀ a ∈ ["12", "12:30:45", "null"], IsAddress a := by
    have hchars : ∀ a ∈ ["12", "12:30:45", "null"],
        (a.toList.all fun c => c.isAlphanum || c = '.' || c = '-' || c = ':') = true
          ∧ ¬ ['0', 'o'] <+: a.toList := by
      decide
    refine fun a ha => ⟨fun c hc => ?_, (hchars a ha).2⟩
    simpa [or_assoc] using List.all_eq_true.1 (hchars a ha).1 c hc
  obtain ⟨-, htoken, -⟩ := made_up_read_back definition .default draw "server.yaml" "agent.yaml" c
    haddress hc
  exact ⟨c, hc, htoken rfl (by decide)⟩

end ClusterBoot
