/-
  ClusterBoot.Proofs.Yaml.Parsing
  ────────────────────────────────
  **THE VALUE THAT A WRITTEN VALUE IS READ AS.**

  From the tokens of a value the reader makes the value that `Value.reread`
  describes (`parses`).  Together with the tokens that the lexer finds this
  is what becomes of a written document (`documents?_emit`): it holds the
  value as it is read again, or it cannot be read because a key is too long.
-/
import ClusterBoot.Proofs.Yaml.Lexing
import ClusterBoot.Yaml.Stream

namespace ClusterBoot.Yaml

open Value (itemTokens entryTokens rereadItems rereadEntries)

/-! ## §1. First tokens. -/

/-- Whether a token begins a node that has no properties. -/
def beginsNode : Token → Bool
  | .scalar _ _ | .blockSequenceStart | .blockMappingStart | .flowSequenceStart
  | .flowMappingStart => true
  | _ => false

theorem tokens_begin (v : Value) : ∃ t ts, v.tokens = t :: ts ∧ beginsNode t = true := by
  cases v with
  | list xs =>
      cases xs with
      | nil => exact ⟨_, _, rfl, rfl⟩
      | cons x xs => exact ⟨_, _, rfl, rfl⟩
  | map es =>
      cases es with
      | nil => exact ⟨_, _, rfl, rfl⟩
      | cons e es => exact ⟨_, _, rfl, rfl⟩
  | _ => exact ⟨_, _, rfl, rfl⟩

/-- Where a value comes, a node is not missing. -/
theorem not_at?_tokens {ends : Token → Bool} (hends : ∀ t, beginsNode t = true → ends t = false)
    {v : Value} {r : Reader} {rest : List Token} (h : r.tokens = v.tokens ++ rest) :
    r.at? ends = false := by
  obtain ⟨t, ts, hts, ht⟩ := tokens_begin v
  unfold Reader.at? Reader.peek
  rw [h, hts]
  exact hends t ht

theorem endsBlockItem_of_beginsNode (t : Token) (h : beginsNode t = true) :
    endsBlockItem t = false := by
  cases t <;> first | rfl | cases h

theorem endsBlockPart_of_beginsNode (t : Token) (h : beginsNode t = true) :
    endsBlockPart t = false := by
  cases t <;> first | rfl | cases h

theorem endsContent_of_beginsNode (t : Token) (h : beginsNode t = true) :
    endsContent t = false := by
  cases t <;> first | rfl | cases h

/-! ## §2. Nodes without properties. -/

/-- A reader that goes on with other tokens. -/
def Reader.at (r : Reader) (ts : List Token) : Reader :=
  { r with tokens := ts }

theorem readNode_scalar {block flat plain : Bool} {s : String} {n : Nat} {r : Reader}
    {rest : List Token} (h : r.tokens = .scalar plain s :: rest) :
    readNode block flat (n + 1) r = some (.ofScalar plain none s, r.at rest) := by
  obtain ⟨tokens, names, values, next⟩ := r
  cases h
  rfl

theorem readNode_hollowList {block flat : Bool} {n : Nat} {r : Reader} {rest : List Token}
    (h : r.tokens = .flowSequenceStart :: .flowSequenceEnd :: rest) :
    readNode block flat (n + 2) r = some (.list [], r.at rest) := by
  obtain ⟨tokens, names, values, next⟩ := r
  cases h
  rfl

theorem readNode_hollowMap {block flat : Bool} {n : Nat} {r : Reader} {rest : List Token}
    (h : r.tokens = .flowMappingStart :: .flowMappingEnd :: rest) :
    readNode block flat (n + 2) r = some (.map [], r.at rest) := by
  obtain ⟨tokens, names, values, next⟩ := r
  cases h
  rfl

theorem readNode_list {flat : Bool} {n : Nat} {r : Reader} {ts : List Token}
    (h : r.tokens = .blockSequenceStart :: ts) :
    readNode true flat (n + 1) r
      = (readBlockItems n (r.at ts)).map fun (vs, r) => (.list vs, r) := by
  obtain ⟨tokens, names, values, next⟩ := r
  cases h
  rfl

theorem readNode_map {flat : Bool} {n : Nat} {r : Reader} {ts : List Token}
    (h : r.tokens = .blockMappingStart :: ts) :
    readNode true flat (n + 1) r
      = (readBlockParts n (r.at ts)).map fun (vs, r) => (mappingOfNodes vs, r) := by
  obtain ⟨tokens, names, values, next⟩ := r
  cases h
  rfl

/-! ## §3. Collections. -/

/-- From its tokens, and with three steps for each of them, a value is read
again. -/
def Parses (v : Value) : Prop :=
  ∀ (flat : Bool) (n : Nat) (r : Reader) (rest : List Token), r.tokens = v.tokens ++ rest →
    3 * v.tokens.length ≤ n → readNode true flat n r = some (v.reread, r.at rest)

/-- A node that is there is read. -/
theorem Parses.unless {v : Value} (h : Parses v) {ends : Token → Bool}
    (hends : ∀ t, beginsNode t = true → ends t = false) (flat : Bool) {n : Nat} {r : Reader}
    {rest : List Token} (hr : r.tokens = v.tokens ++ rest) (hn : 3 * v.tokens.length + 1 ≤ n) :
    readNodeUnless ends true flat n r = some (v.reread, r.at rest) := by
  cases n with
  | zero => omega
  | succ n =>
      show (if r.at? ends then _ else _) = _
      rw [not_at?_tokens hends hr, if_neg (by decide)]
      exact h flat n r rest hr (by omega)

theorem readBlockItems_entry {n : Nat} {r : Reader} {ts : List Token}
    (h : r.tokens = .blockEntry :: ts) :
    readBlockItems (n + 1) r
      = (readNodeUnless endsBlockItem true false n (r.at ts)).bind fun (v, r) =>
          (readBlockItems n r).bind fun (vs, r) => some (v :: vs, r) := by
  obtain ⟨tokens, names, values, next⟩ := r
  cases h
  rfl

theorem readBlockItems_end {n : Nat} {r : Reader} {ts : List Token}
    (h : r.tokens = .blockEnd :: ts) : readBlockItems (n + 1) r = some ([], r.at ts) := by
  obtain ⟨tokens, names, values, next⟩ := r
  cases h
  rfl

theorem readBlockItems_tokens (rest : List Token) (xs : List Value) :
    ∀ (n : Nat) (r : Reader), (∀ x ∈ xs, Parses x) →
      r.tokens = itemTokens xs ++ .blockEnd :: rest → 3 * (itemTokens xs).length + 1 ≤ n →
      readBlockItems n r = some (rereadItems xs, r.at rest) := by
  induction xs with
  | nil =>
      intro n r _ hr hn
      cases n with
      | zero => omega
      | succ n => exact readBlockItems_end hr
  | cons x xs ih =>
      intro n r hitems hr hn
      simp only [itemTokens, List.cons_append, List.append_assoc, List.length_cons,
        List.length_append] at hr hn
      cases n with
      | zero => omega
      | succ n =>
          have hx := Parses.unless (hitems x List.mem_cons_self) endsBlockItem_of_beginsNode false
            (n := n) (r := r.at (x.tokens ++ (itemTokens xs ++ .blockEnd :: rest))) rfl (by omega)
          have hxs := ih n (r.at (itemTokens xs ++ .blockEnd :: rest))
            (fun y hy => hitems y (List.mem_cons_of_mem x hy)) rfl (by omega)
          rw [readBlockItems_entry hr, hx, Option.bind_some]
          -- what is left for the other items are the tokens behind the first one
          show (readBlockItems n (r.at (itemTokens xs ++ .blockEnd :: rest))).bind _ = _
          rw [hxs]
          rfl

theorem readBlockParts_key {n : Nat} {r : Reader} {ts : List Token} (h : r.tokens = .key :: ts) :
    readBlockParts (n + 1) r
      = (readNodeUnless endsBlockPart true true n (r.at ts)).bind fun (k, r) =>
          (readBlockValue n r).bind fun (v, r) =>
            (readBlockParts n r).bind fun (vs, r) => some (k :: v :: vs, r) := by
  obtain ⟨tokens, names, values, next⟩ := r
  cases h
  rfl

theorem readBlockParts_end {n : Nat} {r : Reader} {ts : List Token}
    (h : r.tokens = .blockEnd :: ts) : readBlockParts (n + 1) r = some ([], r.at ts) := by
  obtain ⟨tokens, names, values, next⟩ := r
  cases h
  rfl

theorem readBlockValue_value {n : Nat} {r : Reader} {ts : List Token}
    (h : r.tokens = .value :: ts) :
    readBlockValue (n + 1) r = readNodeUnless endsBlockPart true true n (r.at ts) := by
  obtain ⟨tokens, names, values, next⟩ := r
  cases h
  rfl

/-- The nodes of a mapping as they are read again, keys and values in turn. -/
def rereadNodes (es : List Entry) : List Value :=
  es.flatMap fun e => [e.1.reread, e.2.reread]

theorem readBlockParts_tokens (rest : List Token) (es : List Entry) :
    ∀ (n : Nat) (r : Reader), (∀ e ∈ es, Parses e.1 ∧ Parses e.2) →
      r.tokens = entryTokens es ++ .blockEnd :: rest → 3 * (entryTokens es).length + 1 ≤ n →
      readBlockParts n r = some (rereadNodes es, r.at rest) := by
  induction es with
  | nil =>
      intro n r _ hr hn
      cases n with
      | zero => omega
      | succ n => exact readBlockParts_end hr
  | cons e es ih =>
      intro n r hentries hr hn
      obtain ⟨k, v⟩ := e
      obtain ⟨hk, hv⟩ : Parses k ∧ Parses v := hentries (k, v) List.mem_cons_self
      simp only [entryTokens, List.cons_append, List.append_assoc, List.length_cons,
        List.length_append] at hr hn
      cases n with
      | zero => omega
      | succ n =>
          have hkey := Parses.unless hk endsBlockPart_of_beginsNode true (n := n)
            (r := r.at (k.tokens ++ .value :: (v.tokens ++ (entryTokens es ++ .blockEnd :: rest))))
            rfl (by omega)
          -- a value has its own marker, whose reading takes a step more than the key's
          have hvalue : readBlockValue n
              (r.at (.value :: (v.tokens ++ (entryTokens es ++ .blockEnd :: rest))))
                = some (v.reread, r.at (entryTokens es ++ .blockEnd :: rest)) := by
            cases n with
            | zero => omega
            | succ n =>
                rw [readBlockValue_value rfl]
                exact Parses.unless hv endsBlockPart_of_beginsNode true rfl (by omega)
          have hentries' := ih n (r.at (entryTokens es ++ .blockEnd :: rest))
            (fun d hd => hentries d (List.mem_cons_of_mem _ hd)) rfl (by omega)
          rw [readBlockParts_key hr, hkey, Option.bind_some]
          show (readBlockValue n (r.at (.value :: (v.tokens
            ++ (entryTokens es ++ .blockEnd :: rest))))).bind _ = _
          rw [hvalue, Option.bind_some]
          show (readBlockParts n (r.at (entryTokens es ++ .blockEnd :: rest))).bind _ = _
          rw [hentries']
          rfl

/-! ## §4. Values. -/

theorem ofPlain_ne_bad (s : String) : Value.ofPlain s ≠ .bad := by
  unfold Value.ofPlain
  split
  · exact Value.noConfusion
  split
  · exact Value.noConfusion
  split
  · exact Value.noConfusion
  split
  · exact Value.noConfusion
  split
  · exact Value.noConfusion
  · exact Value.noConfusion

/-- What is written is resolved when it is read again. -/
theorem reread_ne_bad (v : Value) : v.reread ≠ .bad := by
  cases v with
  | real s => exact ofPlain_ne_bad s
  | str s =>
      unfold Value.reread
      split
      · exact Value.noConfusion
      · exact ofPlain_ne_bad s
  | map es => exact Value.noConfusion
  | _ => exact Value.noConfusion

/-- The nodes of a mapping pair up as keys and values. -/
theorem pairNodes_rereadNodes (es : List Entry) :
    pairNodes .bad (rereadNodes es) = rereadEntries es := by
  induction es with
  | nil => rfl
  | cons e es ih =>
      obtain ⟨k, v⟩ := e
      -- an unresolved key would make the reader take the next node for it
      have hbad := reread_ne_bad k
      show pairNodes k.reread (v.reread :: rereadNodes es) = _
      rw [pairNodes, ih, rereadEntries]
      exact hbad

theorem ofScalar_spelling {v : Value} (h : v.isCollection = false) :
    Value.ofScalar v.isPlain none v.spelling = v.reread := by
  cases v with
  -- both are written as a tilde, which is read as null
  | null => decide
  | bad => decide
  | bool b => cases b <;> decide
  | int n => exact ofPlain_int n
  | real s => rfl
  | str s =>
      show (if !(!needsQuotes s) then Value.str s else .ofPlain s)
        = if needsQuotes s then .str s else .ofPlain s
      rw [Bool.not_not]
  | list xs => cases h
  | map es => cases h

theorem parses_scalar {v : Value} (h : v.isCollection = false) : Parses v := by
  intro flat n r rest hr hn
  rw [Value.tokens_scalar h] at hr hn
  cases n with
  | zero => simp at hn
  | succ n =>
      rw [readNode_scalar hr, ofScalar_spelling h]
      rfl

theorem parses_list {xs : List Value} (h : ∀ x ∈ xs, Parses x) : Parses (.list xs) := by
  intro flat n r rest hr hn
  cases xs with
  | nil =>
      -- the two brackets are worth six steps, and two are used
      have hn' : 6 ≤ n := hn
      obtain ⟨m, rfl⟩ : ∃ m, n = m + 2 := ⟨n - 2, by omega⟩
      exact readNode_hollowList hr
  | cons x xs =>
      rw [Value.tokens, if_neg (by simp)] at hr hn
      rw [List.length_cons, List.length_append] at hn
      cases n with
      | zero => omega
      | succ n =>
          have hitems := readBlockItems_tokens rest (x :: xs) n
            (r.at (itemTokens (x :: xs) ++ .blockEnd :: rest)) h rfl (by omega)
          rw [readNode_list (by simpa using hr), hitems]
          rfl

theorem parses_map {es : List Entry} (h : ∀ e ∈ es, Parses e.1 ∧ Parses e.2) :
    Parses (.map es) := by
  intro flat n r rest hr hn
  cases es with
  | nil =>
      have hn' : 6 ≤ n := hn
      obtain ⟨m, rfl⟩ : ∃ m, n = m + 2 := ⟨n - 2, by omega⟩
      exact readNode_hollowMap hr
  | cons e es =>
      rw [Value.tokens, if_neg (by simp)] at hr hn
      rw [List.length_cons, List.length_append] at hn
      cases n with
      | zero => omega
      | succ n =>
          have hparts := readBlockParts_tokens rest (e :: es) n
            (r.at (entryTokens (e :: es) ++ .blockEnd :: rest)) h rfl (by omega)
          -- the reader finds keys and values in turn and pairs them up afterwards
          have hpairs : mappingOfNodes (rereadNodes (e :: es)) = (Value.map (e :: es)).reread := by
            unfold mappingOfNodes
            rw [pairNodes_rereadNodes, Value.reread]
          rw [readNode_map (by simpa using hr), hparts, Option.map_some]
          show some (mappingOfNodes (rereadNodes (e :: es)), _) = _
          rw [hpairs]
          rfl

/-- **Every value is read again from its tokens.** -/
theorem parses {v : Value} (h : v.WellFormed) : Parses v := by
  induction h with
  | null => exact parses_scalar rfl
  | bad => exact parses_scalar rfl
  | bool b => exact parses_scalar rfl
  | int n => exact parses_scalar rfl
  | real hs => exact parses_scalar rfl
  | str s => exact parses_scalar rfl
  | list _ ih => exact parses_list ih
  | map _ _ _ ihkeys ihvalues => exact parses_map fun e he => ⟨ihkeys e he, ihvalues e he⟩

/-! ## §5. Documents. -/

/-- **What becomes of a written document.** -/
theorem documents?_emit {v : Value} (h : v.WellFormed) :
    documents? v.emit = if v.keysFit then some [v.reread] else none := by
  unfold documents?
  rw [tokens?_emit h]
  cases v.keysFit with
  | false => rfl
  | true =>
      -- the reader starts with more than three steps for each token
      have hnode := parses h false (fuelFor v.tokens) ⟨v.tokens, [], [], 1⟩ [] (by simp)
        (by unfold fuelFor; omega)
      have hcontent : readContent v.tokens = some (v.reread, []) := by
        obtain ⟨t, ts, hts, ht⟩ := tokens_begin v
        unfold readContent
        rw [hts]
        simp only
        rw [endsContent_of_beginsNode t ht, if_neg (by decide), ← hts, hnode]
        rfl
      have hdocument : readDocument true (.documentStart :: v.tokens) = some (v.reread, []) :=
        hcontent
      show readDocuments true (v.tokens.length + 1 + 1) (.documentStart :: v.tokens) = _
      unfold readDocuments
      simp only [if_true]
      rw [hdocument]
      rfl

end ClusterBoot.Yaml
