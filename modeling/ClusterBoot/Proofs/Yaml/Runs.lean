/-
  ClusterBoot.Proofs.Yaml.Runs
  ────────────────────────────────
  **THE LEXER, ONE PIECE OF TEXT AFTER THE OTHER.**

  `Leads` says that reading on from one state comes to the same as reading on
  from another, and `Goes` adds the outcome: a piece of text takes the lexer
  to a state with some property, or gets it stuck.  Such pieces compose
  (`Goes.seq`), so a document is read piece by piece.

  Between two pieces the lexer is `Ready`: no key is pending, no flow
  collection is open, and what matters of the past is the `Frame`, the open
  block collections and the tokens so far.  Each piece has its lemma: the gap
  before a token (`Ready.skipSpace`, `Ready.skipLine`), the marks of items,
  keys and values (`Ready.mark`), an empty collection (`Ready.hollow`), a
  scalar (`Ready.scalar`), a scalar that is a key (`Ready.simpleKey`), and
  the end of a block collection (`Ready.close`).
-/
import ClusterBoot.Proofs.Yaml.ScalarText
import ClusterBoot.Yaml.Lexer

namespace ClusterBoot.Yaml.Lexer

/-! ## §1. Runs. -/

/-- Reading on from `l` comes to the same as reading on from `l'`, and takes
no more steps than there are characters between them. -/
def Leads (l l' : Lexer) : Prop :=
  ∃ k, k + l'.cursor.rest.length ≤ l.cursor.rest.length ∧ ∀ n, l.run? (n + k) = l'.run? n

/-- The text from `l` on cannot be read. -/
def Stuck (l : Lexer) : Prop :=
  ∀ n, l.run? n = none

/-- The text from `l` on takes the lexer to a state with `P` if `ok`, and
cannot be read otherwise. -/
def Goes (l : Lexer) (ok : Bool) (P : Lexer → Prop) : Prop :=
  match ok with
  | true => ∃ l', l.Leads l' ∧ P l'
  | false => l.Stuck

theorem run?_succ (n : Nat) (l : Lexer) :
    l.run? (n + 1) = l.step?.bind fun r => if r.2 then some r.1 else r.1.run? n := by
  rfl

theorem run?_mono {x : Lexer} (n : Nat) :
    ∀ {l : Lexer}, l.run? n = some x → l.run? (n + 1) = some x := by
  induction n with
  | zero => intro l h; cases h
  | succ n ih =>
      intro l h
      rw [run?_succ] at h ⊢
      cases hs : l.step? with
      | none =>
          rw [hs] at h
          cases h
      | some r =>
          rw [hs, Option.bind_some] at h
          rw [Option.bind_some]
          split at h
          · rename_i hended
            rw [if_pos hended]
            exact h
          · rename_i hended
            rw [if_neg hended]
            exact ih h

theorem run?_add {x l : Lexer} {n : Nat} (h : l.run? n = some x) (m : Nat) :
    l.run? (n + m) = some x := by
  induction m with
  | zero => exact h
  | succ m ih => exact run?_mono _ ih

namespace Leads

theorem trans {l l' l'' : Lexer} (h : Leads l l') (h' : Leads l' l'') : Leads l l'' := by
  obtain ⟨k, hk, hrun⟩ := h
  obtain ⟨k', hk', hrun'⟩ := h'
  -- the steps from `l` to `l'` come last in the sum, as `run?` counts down
  refine ⟨k' + k, by omega, fun n => ?_⟩
  rw [← Nat.add_assoc, hrun, hrun']

/-- One step that leaves less text. -/
theorem of_step {l l' : Lexer} (h : l.step? = some (l', false))
    (hrest : l'.cursor.rest.length < l.cursor.rest.length) : Leads l l' := by
  refine ⟨1, by omega, fun n => ?_⟩
  rw [run?_succ, h]
  rfl

/-- Two states whose next steps are the same. -/
theorem of_same {l l' : Lexer} (h : l.step? = l'.step?)
    (hrest : l'.cursor.rest.length ≤ l.cursor.rest.length) : Leads l l' := by
  refine ⟨0, by omega, fun n => ?_⟩
  cases n with
  | zero => rfl
  | succ n => rw [Nat.add_zero, run?_succ, run?_succ, h]

theorem stuck {l l' : Lexer} (h : Leads l l') (hstuck : Stuck l') : Stuck l := by
  obtain ⟨k, -, hrun⟩ := h
  intro n
  cases hn : l.run? n with
  | none => rfl
  | some x =>
      -- with `k` steps more the result is the same, but it is the result of `l'`
      have hlong := run?_add hn k
      rw [hrun, hstuck] at hlong
      cases hlong

end Leads

theorem Stuck.of_step {l : Lexer} (h : l.step? = none) : Stuck l := by
  intro n
  cases n with
  | zero => rfl
  | succ n =>
      rw [run?_succ, h]
      rfl

namespace Goes

variable {l : Lexer} {P Q : Lexer → Prop}

theorem of_leads {l' : Lexer} (h : Leads l l') (hP : P l') : Goes l true P :=
  ⟨l', h, hP⟩

/-- **Pieces of text compose.** -/
theorem seq {a b : Bool} (h : Goes l a P) (g : ∀ l', P l' → Goes l' b Q) :
    Goes l (a && b) Q := by
  cases a with
  | false => exact h
  | true =>
      -- the first piece is read; the outcome is that of the second
      obtain ⟨l', hleads, hP⟩ := h
      have hnext := g l' hP
      cases b with
      | false => exact hleads.stuck hnext
      | true =>
          obtain ⟨l'', hleads', hQ⟩ := hnext
          exact ⟨l'', hleads.trans hleads', hQ⟩

theorem next {b : Bool} (h : Goes l true P) (g : ∀ l', P l' → Goes l' b Q) : Goes l b Q := by
  have hseq := h.seq g
  rwa [Bool.true_and] at hseq

theorem after {l' : Lexer} {b : Bool} (h : Leads l l') (g : Goes l' b Q) : Goes l b Q := by
  exact next (P := fun x => x = l') ⟨l', h, rfl⟩ fun x hx => hx ▸ g

end Goes

/-! ## §2. Frames and ready states. -/

/-- The open block collections, and the tokens so far, newest first. -/
structure Frame where
  /-- The indentation of the innermost block collection. -/
  indent : Int
  /-- Those around it. -/
  outer : List Int
  /-- The tokens. -/
  tokens : List Token

namespace Frame

/-- A frame with more tokens, newest first. -/
def push (f : Frame) (ts : List Token) : Frame :=
  { f with tokens := ts ++ f.tokens }

/-- A frame in which a block collection at the column is open. -/
def enter (f : Frame) (column : Nat) (t : Token) : Frame :=
  if (column : Int) ≤ f.indent then f else ⟨column, f.indent :: f.outer, t :: f.tokens⟩

end Frame

/-- The lexer between two pieces of text: what is left, the column, whether a
key may begin, and the frame. -/
structure Ready (rest : List Char) (column : Nat) (allowed : Bool) (f : Frame) (l : Lexer) :
    Prop where
  rest : l.cursor.rest = rest
  column : l.cursor.mark.column = column
  allowed : l.keyAllowed = allowed
  indent : l.indent = f.indent
  outer : l.outerIndents = f.outer
  tokens : l.tokens = f.tokens
  idle : l.pending.possible = false
  nested : l.outerPending = []
  depth : l.flowDepth = 0

theorem inFlow_eq {l : Lexer} (h : l.flowDepth = 0) : l.inFlow = false := by
  simp [inFlow, h]

theorem unrollFrom_self {column indent : Int} (h : indent ≤ column) (outer : List Int)
    (tokens : List Token) : unrollFrom column indent outer tokens = (indent, outer, tokens) := by
  cases outer with
  | nil => rfl
  | cons i is => rw [unrollFrom, if_neg (by omega)]

/-- No collection ends at a column that is not left of the innermost. -/
theorem unroll_self {l : Lexer} (hdepth : l.flowDepth = 0) {c : Int} (hc : l.indent ≤ c) :
    l.unroll c = l := by
  unfold unroll
  rw [inFlow_eq hdepth, if_neg (by decide), unrollFrom_self hc]

theorem emitAt_tokens {l : Lexer} {a b : List Token} (h : l.tokens = a ++ b) (t : Token) :
    (l.emitAt b.length t).tokens = a ++ t :: b := by
  show List.take _ l.tokens ++ t :: List.drop _ l.tokens = _
  rw [h]
  simp

namespace Ready

variable {rest : List Char} {column : Nat} {allowed : Bool} {f : Frame} {l : Lexer}

theorem inFlow (h : Ready rest column allowed f l) : l.inFlow = false :=
  inFlow_eq h.depth

theorem unexpired (h : Ready rest column allowed f l) : l.expireKeys? = some l := by
  have hpending : expire? l.cursor.mark l.pending = some l.pending := by
    unfold expire?
    rw [h.idle, Bool.false_and, if_neg (by decide)]
  unfold expireKeys?
  rw [hpending, h.nested]
  -- with no key outside, writing back what was there changes nothing
  obtain ⟨cursor, tokens, pending, outerPending, _, _, _, _, _⟩ := l
  cases h.nested
  rfl

end Ready

/-! ## §3. Gaps. -/

theorem skipGapFrom_starts {inFlow allowed : Bool} {m : Mark} {cs : List Char} (h : Starts cs) :
    skipGapFrom inFlow false allowed m cs = (allowed, ⟨cs, m⟩) := by
  cases cs with
  | nil => rfl
  | cons c r =>
      -- neither blank, nor break, nor the sign of a comment
      obtain ⟨hgap, hhash⟩ := h
      simp only [isGap, isBlank, Bool.or_eq_false_iff, decide_eq_false_iff_not] at hgap
      obtain ⟨⟨hspace, htab⟩, hbreak⟩ := hgap
      unfold skipGapFrom
      rw [hbreak, if_neg (by decide), if_neg (by simp [hspace, htab]), if_neg hhash]

theorem skipGapFrom_spaces {allowed : Bool} {next : List Char} (h : Starts next) (n : Nat) :
    ∀ m : Mark, skipGapFrom false false allowed m (List.replicate n ' ' ++ next)
      = (allowed, ⟨next, m.past (List.replicate n ' ')⟩) := by
  induction n with
  | zero => intro m; exact skipGapFrom_starts h
  | succ n ih =>
      intro m
      rw [List.replicate_succ, List.cons_append, skipGapFrom, if_neg (by decide),
        if_pos (by simp), ih]
      rfl

theorem skipGapFrom_newLine {allowed : Bool} {m : Mark} {level : Nat} {next : List Char}
    (h : Starts next) :
    skipGapFrom false false allowed m (newLine level ++ next)
      = (true, ⟨next, m.past (newLine level)⟩) := by
  unfold newLine indentation
  rw [List.cons_append, skipGapFrom, if_pos (by decide), skipGapFrom_spaces h]
  simp

theorem skipGap_eq {l : Lexer} {allowed : Bool} {stop : Cursor}
    (h : skipGapFrom l.inFlow false l.keyAllowed l.cursor.mark l.cursor.rest = (allowed, stop)) :
    l.skipGap = { l with keyAllowed := allowed, cursor := stop } := by
  unfold skipGap
  rw [h]

/-- A lexer after the gap at its cursor, with the keys before the gap
dropped. -/
def settled (l : Lexer) (allowed : Bool) (stop : Cursor) : Lexer :=
  { l with
    cursor := stop
    keyAllowed := allowed
    pending := { l.pending with possible := false } }

/-- A gap can be skipped beforehand, and with it the key that it ends. -/
theorem settle {l : Lexer} {allowed : Bool} {stop : Cursor} (hdepth : l.flowDepth = 0)
    (hnested : l.outerPending = [])
    (hgap : skipGapFrom false false l.keyAllowed l.cursor.mark l.cursor.rest = (allowed, stop))
    (hstarts : Starts stop.rest) (hrest : stop.rest.length ≤ l.cursor.rest.length)
    (hold : l.pending.possible = true →
      l.pending.required = false ∧ l.pending.mark.line < stop.mark.line) :
    Leads l (l.settled allowed stop) := by
  have hflow : l.inFlow = false := by
    simp [inFlow, hdepth]
  have hskip : l.skipGap = { l with keyAllowed := allowed, cursor := stop } :=
    skipGap_eq (by rw [hflow, hgap])
  have hskip' : (l.settled allowed stop).skipGap = l.settled allowed stop :=
    skipGap_eq (skipGapFrom_starts hstarts)
  have hexpire : expire? stop.mark l.pending = some { l.pending with possible := false } := by
    unfold expire?
    cases hp : l.pending.possible with
    | false =>
        rw [Bool.false_and, if_neg (by decide), ← hp]
    | true =>
        obtain ⟨hrequired, hline⟩ := hold hp
        simp [hline, hrequired]
  -- a key that is gone cannot expire a second time
  have hexpire' : expire? stop.mark { l.pending with possible := false }
      = some { l.pending with possible := false } := by
    rfl
  -- so the two lexers agree after the gap, and then on every step
  have hsame : l.skipGap.expireKeys? = (l.settled allowed stop).skipGap.expireKeys? := by
    rw [hskip, hskip']
    unfold expireKeys?
    simp only [settled, hnested, hexpire, hexpire']
  refine Leads.of_same ?_ hrest
  unfold step?
  rw [hsame]

namespace Ready

variable {rest next : List Char} {column level : Nat} {allowed : Bool} {f : Frame} {l : Lexer}

theorem of_settled (hindent : l.indent = f.indent) (houter : l.outerIndents = f.outer)
    (htokens : l.tokens = f.tokens) (hnested : l.outerPending = []) (hdepth : l.flowDepth = 0)
    (allowed : Bool) (stop : Cursor) :
    Ready stop.rest stop.mark.column allowed f (l.settled allowed stop) :=
  ⟨rfl, rfl, rfl, hindent, houter, htokens, rfl, hnested, hdepth⟩

/-- The space between a mark and what follows it. -/
theorem skipSpace (h : Ready (' ' :: next) column allowed f l) (hnext : Starts next) :
    Goes l true (Ready next (column + 1) allowed f) := by
  have hgap : skipGapFrom false false l.keyAllowed l.cursor.mark l.cursor.rest
      = (allowed, ⟨next, l.cursor.mark.past [' ']⟩) := by
    rw [h.rest, h.allowed]
    exact skipGapFrom_spaces hnext 1 l.cursor.mark
  have hready := of_settled h.indent h.outer h.tokens h.nested h.depth allowed
    ⟨next, l.cursor.mark.past [' ']⟩
  refine Goes.of_leads (settle h.depth h.nested hgap hnext ?_ ?_) ?_
  · rw [h.rest]
    simp
  · intro hp
    rw [h.idle] at hp
    cases hp
  · simpa [Mark.after, h.column] using hready

/-- The end of a line and the indentation of the next. -/
theorem skipLine (h : Ready (newLine level ++ next) column allowed f l) (hnext : Starts next) :
    Goes l true (Ready next (2 * level) true f) := by
  have hgap : skipGapFrom false false l.keyAllowed l.cursor.mark l.cursor.rest
      = (true, ⟨next, l.cursor.mark.past (newLine level)⟩) := by
    rw [h.rest]
    exact skipGapFrom_newLine hnext
  have hready := of_settled h.indent h.outer h.tokens h.nested h.depth true
    ⟨next, l.cursor.mark.past (newLine level)⟩
  refine Goes.of_leads (settle h.depth h.nested hgap hnext ?_ ?_) ?_
  · rw [h.rest]
    simp
  · intro hp
    rw [h.idle] at hp
    cases hp
  · simpa [Mark.past_newLine] using hready

end Ready

/-! ## §4. Marks. -/

/-- Read the token that begins with `c`, before `r`: what a step does once the
gap is behind it. -/
def next? (c : Char) (r : List Char) (l : Lexer) : Option Lexer :=
  if c = '%' && l.cursor.mark.column = 0 then do
    l.readSeparator? .directive (← readDirective l.cursor)
  else if atDocumentMark l.cursor.mark (c :: r) then
    l.readSeparator? (if c = '-' then .documentStart else .documentEnd) (l.cursor.drop 3)
  else l.readToken? c r

theorem step?_cons {l l' : Lexer} {c : Char} {r : List Char}
    (hexpire : l.skipGap.expireKeys? = some l')
    (hunroll : l'.unroll l'.cursor.mark.column = l') (hrest : l'.cursor.rest = c :: r) :
    l.step? = (l'.next? c r).map fun x => (x, false) := by
  unfold step?
  rw [hexpire]
  simp only [Option.bind_eq_bind, Option.bind_some]
  rw [hunroll, hrest]
  unfold next?
  dsimp only
  split
  · cases readDirective l'.cursor with
    | none => rfl
    | some stop => rw [Option.map_eq_bind]; rfl
  · split
    · rw [Option.map_eq_bind]; rfl
    · rw [Option.map_eq_bind]; rfl

/-- A block collection begins before the tokens `a`, if it is not open. -/
theorem roll_eq {l : Lexer} {f : Frame} {a : List Token} (hdepth : l.flowDepth = 0)
    (hindent : l.indent = f.indent) (houter : l.outerIndents = f.outer)
    (htokens : l.tokens = a ++ f.tokens) (column : Nat) (t : Token) :
    l.roll column t f.tokens.length
      = { l with
          indent := (f.enter column t).indent
          outerIndents := (f.enter column t).outer
          tokens := a ++ (f.enter column t).tokens } := by
  unfold Lexer.roll Frame.enter
  rw [inFlow_eq hdepth, hindent, Bool.false_or]
  by_cases hc : (column : Int) ≤ f.indent
  · rw [if_pos hc, if_pos (by simpa using hc), ← hindent, ← houter, ← htokens]
  · rw [if_neg hc, if_neg (by simpa using hc)]
    -- the start token goes between `a` and what was there before
    have hat := emitAt_tokens htokens t
    unfold emitAt at hat ⊢
    simp only at hat ⊢
    rw [hat, houter]

theorem dropKey?_idle {l : Lexer} (h : l.pending.possible = false) : l.dropKey? = some l := by
  unfold dropKey?
  rw [h, Bool.false_and, if_neg (by decide), ← h]

namespace Ready

variable {rest next r : List Char} {column : Nat} {allowed : Bool} {f : Frame} {l : Lexer} {c : Char}

theorem skipGap_self (h : Ready rest column allowed f l) (hstarts : Starts rest) :
    l.skipGap = l := by
  refine skipGap_eq ?_
  rw [h.rest, skipGapFrom_starts hstarts, ← h.rest]

theorem step?_eq (h : Ready (c :: r) column allowed f l) (hstarts : Starts (c :: r))
    (hcolumn : f.indent ≤ (column : Int)) :
    l.step? = (l.next? c r).map fun l' => (l', false) := by
  exact step?_cons (by rw [h.skipGap_self hstarts, h.unexpired])
    (unroll_self h.depth (by rw [h.column, h.indent]; exact hcolumn)) h.rest

/-- Opening a block collection where a node begins. -/
theorem roll (h : Ready rest column allowed f l) (t : Token) :
    Ready rest column allowed (f.enter column t) (l.roll column t l.tokens.length) := by
  rw [h.tokens, roll_eq h.depth h.indent h.outer (a := []) h.tokens]
  exact ⟨h.rest, h.column, h.allowed, rfl, rfl, rfl, h.idle, h.nested, h.depth⟩

/-- One character further, with a token for it. -/
theorem advance (h : Ready (c :: r) column allowed f l) (hc : c ≠ '\n') (t : Token)
    (allowed' : Bool) :
    Ready r (column + 1) allowed' (f.push [t]) (((l.allowKey allowed').skip 1).emit t) := by
  refine ⟨?_, ?_, rfl, h.indent, h.outer, ?_, h.idle, h.nested, h.depth⟩
  · show l.cursor.rest.drop 1 = r
    rw [h.rest]
    rfl
  · show (l.cursor.mark.past (l.cursor.rest.take 1)).column = column + 1
    rw [h.rest]
    show (l.cursor.mark.after c).column = column + 1
    rw [Mark.after_of_ne _ hc, ← h.column]
  · show t :: l.tokens = _
    rw [h.tokens]
    rfl

/-- The marks before which a block collection may begin, with the token of the
collection and their own. -/
def marks : List (Char × Token × Token) :=
  [('-', .blockSequenceStart, .blockEntry), ('?', .blockMappingStart, .key),
   (':', .blockMappingStart, .value)]

theorem readToken?_mark {start t : Token} (h : Ready (c :: ' ' :: next) column true f l)
    (hmark : (c, start, t) ∈ marks) :
    l.readToken? c (' ' :: next)
      = some ((((l.roll column start l.tokens.length).allowKey true).skip 1).emit t) := by
  -- opening a collection leaves no key pending that could be dropped
  have hidle : ∀ u, (l.roll column u l.tokens.length).dropKey?
      = some (l.roll column u l.tokens.length) := fun u => dropKey?_idle (h.roll u).idle
  have hword : endsWord (' ' :: next) = true := rfl
  simp only [marks, List.mem_cons, Prod.mk.injEq, List.not_mem_nil, or_false] at hmark
  rcases hmark with ⟨rfl, rfl, rfl⟩ | ⟨rfl, rfl, rfl⟩ | ⟨rfl, rfl, rfl⟩
  · show l.readBlockEntry? = _
    unfold readBlockEntry?
    rw [h.inFlow, h.allowed, if_neg (by decide), h.column, hidle]
    rfl
  · show l.readKey? = _
    unfold readKey?
    rw [h.inFlow, h.allowed, if_neg (by decide), h.column, hidle]
    simp [(h.roll _).inFlow]
  · show l.readValue? = _
    unfold readValue?
    simp only [h.idle, h.inFlow, h.allowed, h.column, (h.roll _).inFlow]
    rfl

/-- The mark of an item, of a key or of a value. -/
theorem mark {start t : Token} (h : Ready (c :: ' ' :: next) column true f l)
    (hmark : (c, start, t) ∈ marks) (hcolumn : f.indent ≤ (column : Int)) (hnext : Starts next) :
    Goes l true (Ready next (column + 2) true ((f.enter column start).push [t])) := by
  -- none of the marks is a gap, a directive or the mark of a document
  have hc : Starts (c :: ' ' :: next) ∧ c ≠ '\n' ∧ c ≠ '%'
      ∧ ∀ m, atDocumentMark m (c :: ' ' :: next) = false := by
    simp only [marks, List.mem_cons, Prod.mk.injEq, List.not_mem_nil, or_false] at hmark
    rcases hmark with ⟨rfl, -, -⟩ | ⟨rfl, -, -⟩ | ⟨rfl, -, -⟩
    all_goals
      exact ⟨⟨by decide, by decide⟩, by decide, by decide, fun m => by simp [atDocumentMark]⟩
  obtain ⟨hstarts, hnewline, hpercent, hdocument⟩ := hc
  have hstep := h.step?_eq hstarts hcolumn
  unfold next? at hstep
  rw [if_neg (by simp [hpercent]), hdocument, if_neg (by decide), h.readToken?_mark hmark,
    Option.map_some] at hstep
  -- open the collection, step over the mark, then over the space
  have hready := (h.roll start).advance hnewline t true
  refine Goes.after (Leads.of_step hstep ?_) (hready.skipSpace hnext)
  rw [hready.rest, h.rest]
  simp

end Ready

/-! ## §5. Scalars. -/

/-- A scalar as it is written: plain, or between double quotes. -/
def spell (plain : Bool) (s : String) : List Char :=
  if plain then s.toList else '"' :: (s.toList.flatMap escapeChar ++ ['"'])

/-- The pending key once a node begins at the cursor. -/
def saved (l : Lexer) : PendingKey :=
  if l.keyAllowed then ⟨true, false, l.tokens.length, l.cursor.mark⟩ else l.pending

/-- The lexer after a scalar. -/
def afterScalar (l : Lexer) (stop : Cursor) (allowed : Bool) (adjacent : Nat) (t : Token) :
    Lexer :=
  { l with
    cursor := stop
    tokens := t :: l.tokens
    pending := l.saved
    keyAllowed := allowed
    adjacentAt := adjacent }

/-- The lexer after a scalar, before the colon that makes it a key if it
`fits`. -/
def beforeColon (l : Lexer) (stop : Cursor) (fits : Bool) (adjacent : Nat) (t : Token) : Lexer :=
  { l.afterScalar stop false adjacent t with
    pending := ⟨fits, false, l.tokens.length, l.cursor.mark⟩ }

theorem opensWord_append {cs : List Char} (h : opensWord cs = true) (rest : List Char) :
    opensWord (cs ++ rest) = true := by
  cases cs with
  | nil => cases h
  | cons c r =>
      cases r with
      | nil =>
          simp only [opensWord, Bool.or_false, Bool.and_eq_true] at h
          simp only [List.cons_append, opensWord, h.1, h.2]
          rfl
      | cons d r => exact h

/-- What begins like a word is read as a plain scalar. -/
theorem next?_word {c : Char} {r : List Char} (h : opensWord (c :: r) = true) (l : Lexer) :
    l.next? c r = l.readPlain? := by
  simp only [opensWord, Bool.and_eq_true, Bool.not_eq_true', Bool.or_eq_true] at h
  obtain ⟨⟨-, hindicator⟩, hmark⟩ := h
  have hne : ∀ d ∈ indicators, c ≠ d := by
    intro d hd heq
    subst heq
    rw [List.contains_iff_mem.2 hd] at hindicator
    cases hindicator
  -- a leading hyphen is no mark of an item and not the first of three
  have hhyphen : c = '-' → endsWord r = false ∧ ∀ x, r ≠ '-' :: x := by
    intro heq
    subst heq
    rcases hmark with hmark | hmark
    · cases hmark
    · cases r with
      | nil => cases hmark
      | cons d r =>
          simp only [Bool.and_eq_true, decide_eq_true_eq, Bool.not_eq_true'] at hmark
          exact ⟨hmark.2, fun x hx => hmark.1 (List.cons.inj hx).1⟩
  -- and a leading point is not the first of three
  have hpoint : c = '.' → ∀ x, r ≠ '.' :: x := by
    rintro rfl x rfl
    rcases hmark with hmark | hmark
    · cases hmark
    · simp at hmark
  have hdocument : atDocumentMark l.cursor.mark (c :: r) = false := by
    unfold atDocumentMark
    split
    · rename_i heq
      cases heq
      exact absurd rfl ((hhyphen rfl).2 _)
    · rename_i heq
      cases heq
      exact absurd rfl (hpoint rfl _)
    · exact Bool.and_false _
  have hentry : (decide (c = '-') && endsWord r) = false := by
    by_cases hc : c = '-'
    · rw [(hhyphen hc).1, Bool.and_false]
    · simp [hc]
  -- every other case of the dispatch is for one of the indicators
  unfold next? readToken?
  rw [hdocument, hentry]
  simp [hne '[' (by decide), hne ']' (by decide), hne '\x7b' (by decide), hne '\x7d' (by decide),
    hne ',' (by decide), hne '?' (by decide), hne ':' (by decide), hne '*' (by decide),
    hne '&' (by decide), hne '!' (by decide), hne '|' (by decide), hne '>' (by decide),
    hne '\'' (by decide), hne '"' (by decide), hne '%' (by decide), hne '@' (by decide),
    hne '\x60' (by decide)]

theorem starts_of_opensWord {cs : List Char} (h : opensWord cs = true) : Starts cs := by
  cases cs with
  | nil => cases h
  | cons c r =>
      simp only [opensWord, Bool.and_eq_true, Bool.not_eq_true'] at h
      refine ⟨h.1.1, ?_⟩
      intro heq
      subst heq
      exact absurd h.1.2 (by decide)

theorem next?_colon {r : List Char} (h : endsWord r = true) (l : Lexer) :
    l.next? ':' r = l.readValue? := by
  unfold next? readToken? isValueMark
  simp [atDocumentMark, h]

/-- The colon after a possible key. -/
theorem readValue?_pending {l : Lexer} (h : l.pending.possible = true) :
    l.readValue? = some ((((({ (l.emitAt l.pending.position .key).roll l.pending.mark.column
        .blockMappingStart l.pending.position with
          pending := { l.pending with possible := false } } : Lexer).allowKey false).skip 1).emit
        .value)) := by
  unfold readValue?
  rw [if_pos h]

theorem spell_ne_nil {plain : Bool} {s : String} (hword : plain = true → isWord s.toList = true) :
    spell plain s ≠ [] := by
  unfold spell
  cases plain with
  | true =>
      intro heq
      rw [if_pos rfl] at heq
      exact (isWord_bounds (hword rfl)).1 heq
  | false => simp

/-- A written scalar is on one line. -/
theorem newline_not_mem_spell {plain : Bool} {s : String}
    (hword : plain = true → isWord s.toList = true) : '\n' ∉ spell plain s := by
  unfold spell
  cases plain with
  | true =>
      have h := hword rfl
      simp only [isWord, Bool.and_eq_true, List.all_eq_true, Bool.not_eq_true'] at h
      intro hmem
      exact absurd (h.1.2 '\n' hmem) (by decide)
  | false =>
      rw [if_neg (by decide), List.mem_cons, List.mem_append, List.mem_flatMap]
      intro h
      rcases h with h | ⟨c, -, h⟩ | h
      · cases h
      · exact newline_not_mem_escapeChar c h
      · simp at h

namespace Ready

variable {rest next r : List Char} {column level : Nat} {allowed plain : Bool} {f : Frame}
  {l : Lexer} {s : String}

theorem saveKey?_eq (h : Ready rest column allowed f l) :
    l.saveKey? = some { l with pending := l.saved } := by
  unfold saveKey? saved
  cases hallowed : l.keyAllowed with
  | false => rw [if_neg (by decide), if_neg (by decide), ← hallowed]
  | true =>
      rw [if_pos rfl, dropKey?_idle h.idle]
      simp [h.inFlow, hallowed]

/-- A key that a ready lexer saves begins at the cursor and may be no key. -/
theorem saved_possible (h : Ready rest column allowed f l) (hp : l.saved.possible = true) :
    l.saved.required = false ∧ l.saved.mark = l.cursor.mark := by
  unfold saved at hp ⊢
  cases hallowed : l.keyAllowed with
  | false =>
      rw [hallowed, if_neg (by decide), h.idle] at hp
      cases hp
  | true => exact ⟨rfl, rfl⟩

theorem step?_plain {g : Folding} {stop : Cursor} (h : Ready (s.toList ++ rest) column allowed f l)
    (hword : isWord s.toList = true) (hcolumn : f.indent ≤ (column : Int))
    (hread : plainFrom (f.indent + 1) false .empty l.cursor.mark (s.toList ++ rest)
      = some (g, stop))
    (htext : g.toText = s) :
    l.step? = some (l.afterScalar stop g.broken l.adjacentAt (.scalar true s), false) := by
  simp only [isWord, Bool.and_eq_true] at hword
  have hopens := opensWord_append hword.1.1 rest
  cases hcs : s.toList ++ rest with
  | nil =>
      rw [hcs] at hopens
      cases hopens
  | cons c r =>
      -- the scalar is read from the start of the word, not from behind `c`
      have hread' : plainFrom (l.indent + 1) l.inFlow .empty l.cursor.mark l.cursor.rest
          = some (g, stop) := by
        rw [h.indent, h.inFlow, h.rest, hread]
      rw [hcs] at h hopens
      rw [h.step?_eq (starts_of_opensWord hopens) hcolumn, next?_word hopens]
      unfold readPlain?
      rw [h.saveKey?_eq]
      show (((plainFrom (l.indent + 1) l.inFlow .empty l.cursor.mark l.cursor.rest).bind _).map _)
        = _
      rw [hread', ← htext]
      rfl

theorem readQuoted?_eq (h : Ready (spell false s ++ rest) column allowed f l) :
    l.readQuoted? true = some (l.afterScalar ⟨rest, l.cursor.mark.past (spell false s)⟩ false
      (l.cursor.mark.past (spell false s)).index (.scalar false s)) := by
  have hread : doubleFrom .any .empty (l.cursor.drop 1).mark (l.cursor.drop 1).rest
      = some ((Folding.empty.takeAll s.toList).close,
          ⟨rest, l.cursor.mark.past (spell false s)⟩) := by
    -- the opening quote is skipped, and what is escaped runs up to the closing one
    have hspell : l.cursor.rest = '"' :: (s.toList.flatMap escapeChar ++ '"' :: rest) := by
      rw [h.rest, spell, if_neg (by decide), List.cons_append, List.append_assoc]
      rfl
    show doubleFrom .any .empty (l.cursor.mark.past (l.cursor.rest.take 1))
      (l.cursor.rest.drop 1) = _
    rw [hspell]
    show doubleFrom .any .empty (l.cursor.mark.after '"')
      (s.toList.flatMap escapeChar ++ '"' :: rest) = _
    rw [doubleFrom_escaped]
    · rfl
    · rw [Mark.after_of_ne _ (by decide)]
      exact Nat.succ_pos _
  unfold readQuoted?
  rw [h.saveKey?_eq]
  simp only [Option.bind_eq_bind, Option.bind_some, if_true]
  rw [hread]
  simp only [Option.bind_some, Folding.toText_close_takeAll, String.ofList_toList]
  rfl

theorem step?_quoted (h : Ready (spell false s ++ rest) column allowed f l)
    (hcolumn : f.indent ≤ (column : Int)) :
    l.step? = some (l.afterScalar ⟨rest, l.cursor.mark.past (spell false s)⟩ false
      (l.cursor.mark.past (spell false s)).index (.scalar false s), false) := by
  have hread := h.readQuoted?_eq
  have hquote : ∀ r, l.next? '"' r = l.readQuoted? true := by
    intro r
    unfold next? readToken?
    simp [atDocumentMark]
  rw [spell, if_neg (by decide), List.cons_append] at h
  rw [h.step?_eq ⟨by decide, by decide⟩ hcolumn, hquote, hread]
  rfl

theorem of_afterScalar (h : Ready rest column allowed f l) {stop : Cursor} {stay : Bool}
    {adjacent : Nat} {t : Token} (allowed' : Bool) (e : Cursor) :
    Ready e.rest e.mark.column allowed' (f.push [t])
      ((l.afterScalar stop stay adjacent t).settled allowed' e) :=
  of_settled (f := f.push [t]) (l := l.afterScalar stop stay adjacent t) h.indent h.outer
    (congrArg (t :: ·) h.tokens) h.nested h.depth allowed' e

/-- What is read of a word is the word. -/
theorem takeAll_word (hword : isWord s.toList = true) :
    (Folding.empty.takeAll s.toList).broken = false
      ∧ (Folding.empty.takeAll s.toList).toText = s := by
  obtain ⟨hne, hlast⟩ := isWord_bounds hword
  have htext := Folding.toText_takeAll hne hlast
  rw [String.ofList_toList] at htext
  exact ⟨(Folding.takeAll_unbroken s.toList rfl).1, htext⟩

/-- A word at the end of its line is read with the line break. -/
theorem step?_wordLine (h : Ready (s.toList ++ (newLine level ++ next)) column allowed f l)
    (hword : isWord s.toList = true) (hcolumn : f.indent ≤ (column : Int)) (hnext : Starts next)
    (hend : next = [] ∨ ((2 * level : Nat) : Int) ≤ f.indent) :
    l.step? = some (l.afterScalar ⟨next, (l.cursor.mark.past s.toList).past (newLine level)⟩
      true l.adjacentAt (.scalar true s), false) := by
  obtain ⟨hbroken, htext⟩ := takeAll_word hword
  have hread : plainFrom (f.indent + 1) false .empty l.cursor.mark
      (s.toList ++ (newLine level ++ next))
        = some ((Folding.empty.takeAll s.toList).widen '\n',
            ⟨next, (l.cursor.mark.past s.toList).past (newLine level)⟩) := by
    have hcol : f.indent + 1 ≤ (l.cursor.mark.column : Int) + 1 := by
      rw [h.column]
      omega
    rw [plainFrom_word hword hcol, plainFrom_newLine hbroken hnext]
    exact hend.imp id (by omega)
  -- the line break is taken into the gap after the word, which is dropped
  have hwide : ((Folding.empty.takeAll s.toList).widen '\n').broken = true
      ∧ ((Folding.empty.takeAll s.toList).widen '\n').toText = s := by
    unfold Folding.widen
    rw [if_pos (by decide), hbroken, if_neg (by decide)]
    exact ⟨rfl, htext⟩
  have hstep := h.step?_plain hword hcolumn hread hwide.2
  rw [hwide.1] at hstep
  exact hstep

/-- At the end of its line, the key that a scalar might have been is a line
behind. -/
theorem pending_behind (h : Ready rest column allowed f l) (hline : '\n' ∉ spell plain s)
    {stop : Cursor} {stay : Bool} {adjacent : Nat} {t : Token}
    (hp : (l.afterScalar stop stay adjacent t).pending.possible = true) :
    (l.afterScalar stop stay adjacent t).pending.required = false
      ∧ (l.afterScalar stop stay adjacent t).pending.mark.line
        < ((l.cursor.mark.past (spell plain s)).past (newLine level)).line := by
  obtain ⟨hrequired, hsaved⟩ := h.saved_possible hp
  refine ⟨hrequired, ?_⟩
  show l.saved.mark.line < _
  rw [hsaved, Mark.past_newLine, Mark.past_line _ hline]
  exact Nat.lt_succ_self _

/-- A scalar at the end of its line. -/
theorem scalar (h : Ready (spell plain s ++ (newLine level ++ next)) column allowed f l)
    (hword : plain = true → isWord s.toList = true) (hcolumn : f.indent ≤ (column : Int))
    (hnext : Starts next) (hend : next = [] ∨ ((2 * level : Nat) : Int) ≤ f.indent) :
    Goes l true (Ready next (2 * level) true (f.push [.scalar plain s])) := by
  have hline := newline_not_mem_spell hword
  have hmark : ((l.cursor.mark.past (spell plain s)).past (newLine level)).column = 2 * level := by
    rw [Mark.past_newLine, Mark.past_line _ hline]
  rw [← hmark]
  cases plain with
  | true =>
      have hstep := step?_wordLine h (hword rfl) hcolumn hnext hend
      refine Goes.after (Leads.of_step hstep ?_)
        (Goes.of_leads
          (settle h.depth h.nested ?_ hnext (Nat.le_refl _) (h.pending_behind hline))
          (h.of_afterScalar true ⟨next, _⟩))
      · rw [h.rest]
        simp [afterScalar, newLine, spell]
        omega
      · exact skipGapFrom_starts hnext
  | false =>
      have hstep := h.step?_quoted hcolumn
      refine Goes.after (Leads.of_step hstep ?_)
        (Goes.of_leads
          (settle h.depth h.nested (skipGapFrom_newLine hnext) hnext ?_ (h.pending_behind hline))
          (h.of_afterScalar true ⟨next, _⟩))
      · have hpos : 0 < (spell false s).length := by simp [spell]
        rw [h.rest, List.length_append]
        show (newLine level ++ next).length < _
        omega
      · simp [afterScalar]

/-- A scalar before a colon. -/
theorem step?_key (h : Ready (spell plain s ++ ':' :: r) column allowed f l)
    (hword : plain = true → isWord s.toList = true) (hcolumn : f.indent ≤ (column : Int))
    (hr : endsWord r = true) :
    ∃ adjacent, l.step? = some (l.afterScalar ⟨':' :: r, l.cursor.mark.past (spell plain s)⟩
      false adjacent (.scalar plain s), false) := by
  cases plain with
  | false => exact ⟨_, h.step?_quoted hcolumn⟩
  | true =>
      have hw := hword rfl
      obtain ⟨hne, hlast⟩ := isWord_bounds hw
      obtain ⟨hbroken, htext⟩ := takeAll_word hw
      -- the colon comes right after the word, so no gap is open
      have hgap : (Folding.empty.takeAll s.toList).inGap = false := by
        unfold Folding.inGap
        rw [hbroken, Folding.takeAll_spaces hne hlast]
        rfl
      have hread : plainFrom (f.indent + 1) false .empty l.cursor.mark (s.toList ++ ':' :: r)
          = some (Folding.empty.takeAll s.toList, ⟨':' :: r, l.cursor.mark.past s.toList⟩) := by
        have hcol : f.indent + 1 ≤ (l.cursor.mark.column : Int) + 1 := by
          rw [h.column]
          omega
        rw [plainFrom_word hw hcol, plainFrom_colon hgap hr]
      have hstep := h.step?_plain hw hcolumn hread htext
      rw [hbroken] at hstep
      exact ⟨_, hstep⟩

/-- At the colon after a scalar, the scalar is still a possible key if it was
short enough. -/
theorem expireKeys?_key (h : Ready rest column true f l) (hline : '\n' ∉ spell plain s)
    (adjacent : Nat) (t : Token) :
    (l.afterScalar ⟨':' :: r, l.cursor.mark.past (spell plain s)⟩ false adjacent t).skipGap.expireKeys?
      = some (l.beforeColon ⟨':' :: r, l.cursor.mark.past (spell plain s)⟩
          (decide ((spell plain s).length ≤ keyReach)) adjacent t) := by
  have hskip : (l.afterScalar ⟨':' :: r, l.cursor.mark.past (spell plain s)⟩ false adjacent t).skipGap
      = l.afterScalar ⟨':' :: r, l.cursor.mark.past (spell plain s)⟩ false adjacent t :=
    skipGap_eq (skipGapFrom_starts ⟨by decide, by decide⟩)
  have hsaved : l.saved = ⟨true, false, l.tokens.length, l.cursor.mark⟩ := by
    unfold saved
    rw [h.allowed, if_pos rfl]
  have hexpire : expire? (l.cursor.mark.past (spell plain s)) l.saved
      = some ⟨decide ((spell plain s).length ≤ keyReach), false, l.tokens.length,
          l.cursor.mark⟩ := by
    rw [hsaved, Mark.past_line _ hline]
    unfold expire?
    -- the key expires exactly if the colon is more than `keyReach` further on
    by_cases hlength : (spell plain s).length ≤ keyReach
    · rw [if_neg (by simp; omega)]
      simp [hlength]
    · rw [if_pos (by simp; omega)]
      simp [hlength]
  rw [hskip]
  unfold expireKeys? beforeColon
  simp only [afterScalar, hexpire, h.nested, List.mapM_nil, Option.bind_eq_bind, Option.bind_some,
    Option.pure_def]

/-- The colon after a key: the key token goes before the scalar, and before it
the start of the mapping. -/
theorem readValue?_key (h : Ready rest column true f l) (hline : '\n' ∉ spell plain s)
    (adjacent : Nat) :
    ∃ l', (l.beforeColon ⟨':' :: r, l.cursor.mark.past (spell plain s)⟩ true adjacent
        (.scalar plain s)).readValue? = some l'
      ∧ Ready r (column + (spell plain s).length + 1) false
          ((f.enter column .blockMappingStart).push [.value, .scalar plain s, .key]) l' := by
  -- the key token goes before the scalar, and then the start of the mapping
  -- before the key, where the scalar began
  have hkey := emitAt_tokens (l := l.beforeColon ⟨':' :: r, l.cursor.mark.past (spell plain s)⟩ true
    adjacent (.scalar plain s)) (a := [.scalar plain s]) (b := f.tokens)
    (congrArg (Token.scalar plain s :: ·) h.tokens) .key
  have hroll := roll_eq (f := f) (a := [.scalar plain s, .key])
    (l := emitAt f.tokens.length .key (l.beforeColon _ true adjacent (.scalar plain s)))
    h.depth h.indent h.outer hkey column .blockMappingStart
  refine ⟨_, readValue?_pending rfl, ?_⟩
  show Ready _ _ _ _ (((({ (emitAt l.tokens.length .key _).roll l.cursor.mark.column
    .blockMappingStart l.tokens.length with pending := _ } : Lexer).allowKey false).skip 1).emit .value)
  rw [h.tokens, h.column, hroll]
  refine ⟨rfl, ?_, rfl, rfl, rfl, rfl, rfl, h.nested, h.depth⟩
  show ((l.cursor.mark.past (spell plain s)).after ':').column = _
  rw [Mark.past_line _ hline, Mark.after_of_ne _ (by decide), h.column]

/-- **A scalar that is a key, with its colon.**  One that is too long is no
key, and the colon after it an error. -/
theorem simpleKey (h : Ready (spell plain s ++ ':' :: r) column true f l)
    (hword : plain = true → isWord s.toList = true) (hcolumn : f.indent ≤ (column : Int))
    (hr : endsWord r = true) :
    Goes l (decide ((spell plain s).length ≤ keyReach))
      (Ready r (column + (spell plain s).length + 1) false
        ((f.enter column .blockMappingStart).push [.value, .scalar plain s, .key])) := by
  have hline := newline_not_mem_spell hword
  have hshorter : (':' :: r).length < l.cursor.rest.length := by
    have hpos := List.length_pos_iff.2 (spell_ne_nil hword)
    rw [h.rest, List.length_append]
    omega
  obtain ⟨adjacent, hscalar⟩ := h.step?_key hword hcolumn hr
  refine Goes.after (Leads.of_step hscalar hshorter) ?_
  -- the colon is right of the key, so no collection ends before it
  have hunroll : ∀ fits, (l.beforeColon ⟨':' :: r, l.cursor.mark.past (spell plain s)⟩ fits adjacent
      (.scalar plain s)).unroll ((l.cursor.mark.past (spell plain s)).column : Int)
        = l.beforeColon ⟨':' :: r, l.cursor.mark.past (spell plain s)⟩ fits adjacent
            (.scalar plain s) := by
    intro fits
    refine unroll_self (l := l.beforeColon _ fits adjacent _) h.depth ?_
    show l.indent ≤ _
    rw [Mark.past_line _ hline, h.indent, h.column]
    show f.indent ≤ ((column + (spell plain s).length : Nat) : Int)
    omega
  have hcolon := step?_cons (h.expireKeys?_key hline (r := r) adjacent (.scalar plain s))
    (hunroll _) rfl
  rw [next?_colon hr] at hcolon
  by_cases hlength : (spell plain s).length ≤ keyReach
  · rw [decide_eq_true hlength] at hcolon ⊢
    obtain ⟨l', hread, hready⟩ := h.readValue?_key hline (r := r) adjacent
    rw [hread] at hcolon
    refine Goes.of_leads (Leads.of_step hcolon ?_) hready
    rw [hready.rest]
    exact Nat.lt_succ_self _
  · rw [decide_eq_false hlength] at hcolon ⊢
    -- no key is pending, and none may begin after a scalar
    refine Stuck.of_step (hcolon.trans ?_)
    unfold readValue?
    simp [beforeColon, afterScalar, Lexer.inFlow, h.depth]

end Ready

/-! ## §6. Empty collections. -/

/-- The brackets of a collection, with their tokens. -/
def brackets : List (Char × Char × Token × Token) :=
  [('[', ']', .flowSequenceStart, .flowSequenceEnd),
   ('\x7b', '\x7d', .flowMappingStart, .flowMappingEnd)]

/-- The lexer between an opening bracket and what follows it. -/
def opened (l : Lexer) (start : Token) : Lexer :=
  { l with
    cursor := l.cursor.drop 1
    tokens := start :: l.tokens
    pending := .none
    outerPending := [l.saved]
    keyAllowed := true
    flowDepth := 1 }

/-- The lexer after an empty collection. -/
def closed (l : Lexer) (start stop : Token) : Lexer :=
  { l with
    cursor := (l.cursor.drop 1).drop 1
    tokens := stop :: start :: l.tokens
    pending := l.saved
    outerPending := []
    keyAllowed := false
    flowDepth := 0 }

namespace Ready

variable {rest next r : List Char} {column level : Nat} {allowed : Bool} {f : Frame} {l : Lexer}
  {o c : Char} {start stop : Token}

theorem next?_open (h : Ready rest column allowed f l) (hb : (o, c, start, stop) ∈ brackets) :
    l.next? o r = some (l.opened start) := by
  have hopen : l.openFlow? start = some (l.opened start) := by
    unfold openFlow?
    rw [h.saveKey?_eq]
    simp only [Option.bind_eq_bind, Option.bind_some]
    rw [if_pos (by rw [h.depth]; decide), h.nested, h.depth]
    rfl
  rw [← hopen]
  simp only [brackets, List.mem_cons, Prod.mk.injEq, List.not_mem_nil, or_false] at hb
  rcases hb with ⟨rfl, -, rfl, -⟩ | ⟨rfl, -, rfl, -⟩
  · unfold next? readToken?
    simp [atDocumentMark]
  · unfold next? readToken?
    simp [atDocumentMark]

theorem next?_close (hb : (o, c, start, stop) ∈ brackets) :
    (l.opened start).next? c r = some (l.closed start stop) := by
  have hclose : (l.opened start).closeFlow? stop = some (l.closed start stop) := by
    rfl
  rw [← hclose]
  simp only [brackets, List.mem_cons, Prod.mk.injEq, List.not_mem_nil, or_false] at hb
  rcases hb with ⟨-, rfl, rfl, rfl⟩ | ⟨-, rfl, rfl, rfl⟩
  · unfold next? readToken?
    simp [atDocumentMark]
  · unfold next? readToken?
    simp [atDocumentMark]

/-- The key that an empty collection may be stays possible between its
brackets. -/
theorem expireKeys?_opened (h : Ready (o :: rest) column allowed f l)
    (hrest : Starts rest) (ho : o ≠ '\n') (start : Token) :
    (l.opened start).skipGap.expireKeys? = some (l.opened start) := by
  have hskip : (l.opened start).skipGap = l.opened start := by
    refine skipGap_eq (skipGapFrom_starts ?_)
    show Starts (l.cursor.rest.drop 1)
    rw [h.rest]
    exact hrest
  have hmark : (l.cursor.drop 1).mark
      = ⟨l.cursor.mark.index + 1, l.cursor.mark.line, l.cursor.mark.column + 1⟩ := by
    show l.cursor.mark.past (l.cursor.rest.take 1) = _
    rw [h.rest]
    exact Mark.after_of_ne _ ho
  -- one character is no distance for a key
  have hsaved : expire? (l.cursor.drop 1).mark l.saved = some l.saved := by
    unfold expire?
    cases hp : l.saved.possible with
    | false => rw [Bool.false_and, if_neg (by decide)]
    | true =>
        rw [(h.saved_possible hp).2, hmark, if_neg]
        simp [keyReach]
  rw [hskip]
  unfold expireKeys? opened
  simp only [List.mapM_cons, List.mapM_nil, hsaved, Option.bind_eq_bind, Option.bind_some,
    Option.pure_def]
  rfl

/-- Both pairs of brackets begin a token, and neither ends a line. -/
theorem starts_of_bracket (hb : (o, c, start, stop) ∈ brackets) :
    Starts (o :: r) ∧ Starts (c :: r) ∧ o ≠ '\n' ∧ c ≠ '\n' := by
  simp only [brackets, List.mem_cons, Prod.mk.injEq, List.not_mem_nil, or_false] at hb
  rcases hb with ⟨rfl, rfl, -, -⟩ | ⟨rfl, rfl, -, -⟩
  all_goals
    exact ⟨⟨by decide, by decide⟩, ⟨by decide, by decide⟩, by decide, by decide⟩

/-- Both brackets are read, each by a step. -/
theorem goes_closed (h : Ready (o :: c :: rest) column allowed f l)
    (hb : (o, c, start, stop) ∈ brackets) (hcolumn : f.indent ≤ (column : Int))
    {P : Lexer → Prop} (hgoes : Goes (l.closed start stop) true P) : Goes l true P := by
  obtain ⟨hstarts, -, ho, -⟩ := starts_of_bracket (r := c :: rest) hb
  obtain ⟨-, hstarts', -, -⟩ := starts_of_bracket (r := rest) hb
  have hrest : (l.cursor.drop 1).rest = c :: rest := by
    show l.cursor.rest.drop 1 = _
    rw [h.rest]
    rfl
  -- the opening bracket
  have hstep := h.step?_eq hstarts hcolumn
  rw [h.next?_open hb] at hstep
  refine Goes.after (Leads.of_step hstep ?_) ?_
  · show (l.cursor.drop 1).rest.length < _
    rw [hrest, h.rest]
    exact Nat.lt_succ_self _
  -- the closing one
  have hstep' := step?_cons (h.expireKeys?_opened hstarts' ho start) rfl hrest
  rw [next?_close hb] at hstep'
  refine Goes.after (Leads.of_step hstep' ?_) hgoes
  show ((l.cursor.drop 1).rest.drop 1).length < (l.cursor.drop 1).rest.length
  rw [hrest]
  exact Nat.lt_succ_self _

/-- Where an empty collection ends. -/
theorem drop_brackets (h : Ready (o :: c :: rest) column allowed f l) (ho : o ≠ '\n')
    (hc : c ≠ '\n') :
    (l.cursor.drop 1).drop 1 = ⟨rest, ⟨l.cursor.mark.index + 1 + 1, l.cursor.mark.line,
      l.cursor.mark.column + 1 + 1⟩⟩ := by
  unfold Cursor.drop
  rw [h.rest]
  show (⟨rest, (l.cursor.mark.after o).after c⟩ : Cursor) = _
  rw [Mark.after_of_ne _ ho, Mark.after_of_ne _ hc]

/-- An empty collection at the end of its line. -/
theorem hollow (h : Ready (o :: c :: (newLine level ++ next)) column allowed f l)
    (hb : (o, c, start, stop) ∈ brackets) (hcolumn : f.indent ≤ (column : Int))
    (hnext : Starts next) : Goes l true (Ready next (2 * level) true (f.push [stop, start])) := by
  obtain ⟨-, -, ho, hc⟩ := starts_of_bracket (r := next) hb
  have hcursor := h.drop_brackets ho hc
  apply h.goes_closed hb hcolumn
  have hgap : skipGapFrom false false (l.closed start stop).keyAllowed
      (l.closed start stop).cursor.mark (l.closed start stop).cursor.rest
        = (true, ⟨next, ((l.cursor.drop 1).drop 1).mark.past (newLine level)⟩) := by
    show skipGapFrom false false false ((l.cursor.drop 1).drop 1).mark
      ((l.cursor.drop 1).drop 1).rest = _
    rw [hcursor]
    exact skipGapFrom_newLine hnext
  have hready := of_settled (f := f.push [stop, start]) (l := l.closed start stop) h.indent h.outer
    (congrArg (fun ts => stop :: start :: ts) h.tokens) rfl rfl true
    ⟨next, ((l.cursor.drop 1).drop 1).mark.past (newLine level)⟩
  rw [Mark.past_newLine] at hready hgap
  refine Goes.of_leads (settle rfl rfl hgap hnext ?_ ?_) hready
  · show next.length ≤ ((l.cursor.drop 1).drop 1).rest.length
    rw [hcursor, List.length_append]
    exact Nat.le_add_left _ _
  · -- the line ends, and with it the key that the collection might have been
    intro hp
    obtain ⟨hrequired, hsaved⟩ := h.saved_possible hp
    refine ⟨hrequired, ?_⟩
    show l.saved.mark.line < _
    rw [hsaved, hcursor]
    exact Nat.lt_succ_self _

end Ready

/-! ## §7. The end of a block collection. -/

/-- A lexer whose innermost block collection has ended. -/
def left (l : Lexer) (indent : Int) (outer : List Int) : Lexer :=
  { l with indent := indent, outerIndents := outer, tokens := .blockEnd :: l.tokens }

theorem unroll_left {l : Lexer} {indent : Int} {outer : List Int} {c : Int} (hdepth : l.flowDepth = 0)
    (houter : l.outerIndents = indent :: outer) (hc : c < l.indent) :
    l.unroll c = (l.left indent outer).unroll c := by
  have hfrom : unrollFrom c l.indent l.outerIndents l.tokens
      = unrollFrom c indent outer (.blockEnd :: l.tokens) := by
    rw [houter, unrollFrom, if_pos hc]
  unfold unroll
  rw [inFlow_eq hdepth, inFlow_eq (l := l.left indent outer) hdepth, if_neg (by decide),
    if_neg (by decide), hfrom]
  rfl

/-- **Before a line that is indented less, or at the end of the text, a block
collection has ended.** -/
theorem Ready.close {next : List Char} {column inner : Nat} {indent : Int} {outer : List Int}
    {tokens : List Token} {l : Lexer}
    (h : Ready next column true ⟨inner, indent :: outer, tokens⟩ l)
    (hinner : indent < (inner : Int)) (hnext : Starts next)
    (hend : next = [] ∨ (column : Int) ≤ indent) :
    Goes l true (Ready next column true ⟨indent, outer, .blockEnd :: tokens⟩) := by
  -- the collection ends at the next step; doing so beforehand changes nothing
  have h' : Ready next column true ⟨indent, outer, .blockEnd :: tokens⟩ (l.left indent outer) :=
    ⟨h.rest, h.column, h.allowed, rfl, rfl, congrArg (Token.blockEnd :: ·) h.tokens, h.idle,
      h.nested, h.depth⟩
  have hleft : ∀ c : Int, c < inner → l.unroll c = (l.left indent outer).unroll c :=
    fun c hc => unroll_left h.depth h.outer (by rw [h.indent]; exact hc)
  have hsame : l.step? = (l.left indent outer).step? := by
    unfold step?
    rw [h.skipGap_self hnext, h'.skipGap_self hnext, h.unexpired, h'.unexpired]
    simp only [Option.bind_eq_bind, Option.bind_some]
    rw [h.column, h'.column]
    by_cases hc : (column : Int) < inner
    · rw [hleft column hc]
    · -- only the end of the text is indented so far, and it ends everything
      have hnil : next = [] := by
        rcases hend with hend | hend
        · exact hend
        · omega
      subst hnil
      rw [unroll_self h.depth (by rw [h.indent]; show (inner : Int) ≤ column; omega),
        unroll_self h'.depth (by rw [h'.indent]; show indent ≤ column; omega), h.rest, h'.rest,
        hleft (-1) (by omega)]
  exact Goes.of_leads (Leads.of_same hsame (Nat.le_refl _)) h'

end ClusterBoot.Yaml.Lexer
