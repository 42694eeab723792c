/-
  ClusterBoot.Proofs.Yaml.Lexing
  ────────────────────────────────
  **THE TOKENS OF A WRITTEN VALUE.**

  `Value.tokens` are the tokens that a value should be written as, and
  `tokens?_emit` says that they are what the lexer finds, unless a key is
  too long: then the text cannot be read.

  The induction is over the value.  Its statement (`Reads`) is about a value
  anywhere in a document: the lexer stands before it in some frame, a line
  follows that is indented no deeper than that frame, and the lexer gets to
  that line with the tokens of the value added.
-/
import ClusterBoot.Proofs.Yaml.Reread
import ClusterBoot.Proofs.Yaml.Runs

namespace ClusterBoot.Yaml

open Lexer (Frame Ready Goes spell)

/-! ## §1. Tokens of a value. -/

namespace Value

/-- Whether a scalar is written without quotes. -/
def isPlain : Value → Bool
  | str s => !needsQuotes s
  | _ => true

/-- The text of a scalar as it is written, quotes apart. -/
def spelling : Value → String
  | bool b => boolText b
  | int n => toString n.toInt
  | real s | str s => s
  | _ => "~"

mutual

/-- The tokens that a value is written as. -/
def tokens : Value → List Token
  | list xs =>
      if xs.isEmpty then [.flowSequenceStart, .flowSequenceEnd]
      else .blockSequenceStart :: (itemTokens xs ++ [.blockEnd])
  | map es =>
      if es.isEmpty then [.flowMappingStart, .flowMappingEnd]
      else .blockMappingStart :: (entryTokens es ++ [.blockEnd])
  | v => [.scalar v.isPlain v.spelling]

/-- The tokens of the items of a list. -/
def itemTokens : List Value → List Token
  | [] => []
  | x :: xs => .blockEntry :: (tokens x ++ itemTokens xs)

/-- The tokens of the entries of a mapping. -/
def entryTokens : List (Value × Value) → List Token
  | [] => []
  | (k, v) :: es => .key :: (tokens k ++ .value :: (tokens v ++ entryTokens es))

end

theorem tokens_scalar {v : Value} (h : v.isCollection = false) :
    v.tokens = [.scalar v.isPlain v.spelling] := by
  cases v with
  | list xs => cases h
  | map es => cases h
  | _ => rfl

theorem write_scalar {v : Value} (h : v.isCollection = false) (level : Nat) :
    v.write level = spell v.isPlain v.spelling := by
  cases v with
  | list xs => cases h
  | map es => cases h
  | str s =>
      show writeText s = spell (!needsQuotes s) s
      unfold writeText spell
      cases needsQuotes s <;> simp
  | _ => rfl

theorem isWord_spelling {v : Value} (h : v.WellFormed) (hscalar : v.isCollection = false)
    (hplain : v.isPlain = true) : isWord v.spelling.toList = true := by
  cases h with
  | null => decide
  | bad => decide
  | bool b => exact isWord_boolText b
  | int n => exact isWord_int n.toInt
  | real hs => exact isWord_real hs
  | str s =>
      have hquotes : needsQuotes s = false := by simpa [isPlain] using hplain
      exact isWord_unquoted hquotes
  | list _ => cases hscalar
  | map _ _ _ => cases hscalar

theorem keysFit_scalar {v : Value} (h : v.isCollection = false) : v.keysFit = true := by
  cases v with
  | list xs => cases h
  | map es => cases h
  | _ => rfl

end Value

/-! ## §2. How written values begin. -/

open Value (writeItems writeEntries itemTokens entryTokens keysFitItems keysFitEntries)

theorem starts_spell {plain : Bool} {s : String} (hword : plain = true → isWord s.toList = true)
    (rest : List Char) : Starts (spell plain s ++ rest) := by
  cases plain with
  | false => exact ⟨by decide, by decide⟩
  | true =>
      have h := hword rfl
      simp only [isWord, Bool.and_eq_true] at h
      exact Lexer.starts_of_opensWord (Lexer.opensWord_append h.1.1 rest)

theorem joinLines_single (level : Nat) (p : List Char) : joinLines level [p] = p := by
  simp [joinLines, List.intercalate]

theorem joinLines_cons (level : Nat) (p q : List Char) (ps : List (List Char)) :
    joinLines level (p :: q :: ps) = p ++ (newLine level ++ joinLines level (q :: ps)) := by
  simp [joinLines, List.intercalate]

theorem joinLines_starts {level : Nat} {p rest : List Char} {ps : List (List Char)}
    (h : ∀ r, Starts (p ++ r)) : Starts (joinLines level (p :: ps) ++ rest) := by
  cases ps with
  | nil =>
      rw [joinLines_single]
      exact h rest
  | cons q ps =>
      rw [joinLines_cons, List.append_assoc]
      exact h _

theorem writeItems_cons (level : Nat) (x : Value) (xs : List Value) :
    writeItems level (x :: xs)
      = ('-' :: ' ' :: x.write (level + 1)) :: writeItems level xs := by
  simp [writeItems, Value.leadIn]

/-- An entry of a mapping as it is written. -/
def writeEntry (level : Nat) (k v : Value) : List Char :=
  if k.isCollection then
    '?' :: ' ' :: (k.write (level + 1) ++ (newLine level ++ ':' :: ' ' :: v.write (level + 1)))
  else
    spell k.isPlain k.spelling ++ ':' :: (v.leadIn false (level + 1) ++ v.write (level + 1))

theorem writeEntries_cons (level : Nat) (k v : Value) (es : List Entry) :
    writeEntries level ((k, v) :: es) = writeEntry level k v :: writeEntries level es := by
  rw [writeEntries, writeEntry]
  cases hk : k.isCollection with
  | true => simp [Value.leadIn]
  | false => simp [Value.write_scalar hk]

theorem starts_writeEntry {k : Value} (h : k.WellFormed) (level : Nat) (v : Value)
    (rest : List Char) : Starts (writeEntry level k v ++ rest) := by
  unfold writeEntry
  cases hk : k.isCollection with
  | true => exact ⟨by decide, by decide⟩
  | false =>
      rw [if_neg (by decide), List.append_assoc]
      exact starts_spell (Value.isWord_spelling h hk) _

/-- A written value begins with a token. -/
theorem starts_write {v : Value} (h : v.WellFormed) (level : Nat) (rest : List Char) :
    Starts (v.write level ++ rest) := by
  by_cases hscalar : v.isCollection = false
  · rw [Value.write_scalar hscalar]
    exact starts_spell (Value.isWord_spelling h hscalar) rest
  · cases h with
    | @list xs _ =>
        cases xs with
        | nil => exact ⟨by decide, by decide⟩
        | cons x xs =>
            unfold Value.write
            rw [if_neg (by simp), writeItems_cons]
            exact joinLines_starts fun r => ⟨by decide, by decide⟩
    | @map es _ hkeys _ =>
        cases es with
        | nil => exact ⟨by decide, by decide⟩
        | cons e es =>
            obtain ⟨k, v⟩ := e
            unfold Value.write
            rw [if_neg (by simp), writeEntries_cons]
            exact joinLines_starts
              (starts_writeEntry (hkeys (k, v) List.mem_cons_self) level v)
    | _ => exact absurd rfl hscalar

/-! ## §3. Frames. -/

namespace Lexer.Frame

@[simp] theorem push_push (f : Frame) (ts us : List Token) :
    (f.push ts).push us = f.push (us ++ ts) := by
  simp [push]

@[simp] theorem push_indent (f : Frame) (ts : List Token) : (f.push ts).indent = f.indent := rfl

theorem enter_indent {f : Frame} {column : Nat} (h : f.indent ≤ (column : Int)) (t : Token) :
    (f.enter column t).indent = column := by
  unfold enter
  split
  · omega
  · rfl

/-- A block collection that is open is not begun again. -/
theorem enter_again {f : Frame} {column : Nat} (h : f.indent = (column : Int)) (t : Token) :
    f.enter column t = f := by
  unfold enter
  rw [if_pos (by omega)]

theorem enter_new {f : Frame} {column : Nat} (h : f.indent < (column : Int)) (t : Token) :
    f.enter column t = ⟨column, f.indent :: f.outer, t :: f.tokens⟩ := by
  unfold enter
  rw [if_neg (by omega)]

end Lexer.Frame

/-! ## §4. Reading a written value. -/

/-- Wherever a value is written, the lexer reads its tokens: before the value
it is in some frame, and after it at a line that is not indented deeper. -/
def Reads (v : Value) : Prop :=
  ∀ {level below column : Nat} {allowed : Bool} {f : Frame} {next : List Char} {l : Lexer},
    Ready (v.write level ++ (newLine below ++ next)) column allowed f l →
    (v.isFilled = true → allowed = true ∧ column = 2 * level ∧ f.indent < (2 * level : Nat)) →
    f.indent ≤ (column : Int) → Starts next →
    (next = [] ∨ ((2 * below : Nat) : Int) ≤ f.indent) →
    Goes l v.keysFit (Ready next (2 * below) true (f.push v.tokens.reverse))

theorem reads_scalar {v : Value} (h : v.WellFormed) (hscalar : v.isCollection = false) :
    Reads v := by
  intro level below column allowed f next l hready _ hcolumn hnext hend
  rw [Value.write_scalar hscalar] at hready
  rw [Value.keysFit_scalar hscalar, Value.tokens_scalar hscalar]
  exact hready.scalar (Value.isWord_spelling h hscalar) hcolumn hnext hend

/-- A value that begins where a block collection may begin. -/
theorem Reads.fresh {v : Value} (h : Reads v) {level below : Nat} {f : Frame} {next : List Char}
    {l : Lexer}
    (hready : Ready (v.write level ++ (newLine below ++ next)) (2 * level) true f l)
    (hlevel : f.indent < (2 * level : Nat)) (hnext : Starts next)
    (hend : next = [] ∨ ((2 * below : Nat) : Int) ≤ f.indent) :
    Goes l v.keysFit (Ready next (2 * below) true (f.push v.tokens.reverse)) :=
  h hready (fun _ => ⟨rfl, rfl, hlevel⟩) (by omega) hnext hend

theorem reads_item {level below : Nat} {x : Value} {f : Frame} {next : List Char} {l : Lexer}
    (hx : Reads x) (hwf : x.WellFormed)
    (hready : Ready ('-' :: ' ' :: (x.write (level + 1) ++ (newLine below ++ next))) (2 * level)
      true f l)
    (hindent : f.indent ≤ (2 * level : Nat)) (hnext : Starts next)
    (hend : next = [] ∨ below ≤ level) :
    Goes l x.keysFit (Ready next (2 * below) true
      ((f.enter (2 * level) .blockSequenceStart).push (x.tokens.reverse ++ [.blockEntry]))) := by
  have hmark := hready.mark
    (show ('-', Token.blockSequenceStart, Token.blockEntry) ∈ Ready.marks by decide) hindent
    (starts_write hwf _ _)
  have hopen := Frame.enter_indent hindent .blockSequenceStart
  -- the mark opens the list or finds it open; either way it is at this level now
  refine Goes.next hmark fun l' hl' => ?_
  have hitem := hx.fresh hl' (by rw [Frame.push_indent, hopen]; omega) hnext
    (hend.imp_right fun h => by rw [Frame.push_indent, hopen]; omega)
  rwa [Frame.push_push] at hitem

/-- The items of a list, in a frame where the list may have begun. -/
theorem reads_items {level below : Nat} {next : List Char} (hnext : Starts next)
    (hend : next = [] ∨ below ≤ level) (xs : List Value) :
    ∀ {x : Value} {f : Frame} {l : Lexer}, (∀ y ∈ x :: xs, Reads y ∧ y.WellFormed) →
      Ready (joinLines level (writeItems level (x :: xs)) ++ (newLine below ++ next)) (2 * level)
        true f l →
      f.indent ≤ (2 * level : Nat) →
      Goes l (keysFitItems (x :: xs))
        (Ready next (2 * below) true
          ((f.enter (2 * level) .blockSequenceStart).push (itemTokens (x :: xs)).reverse)) := by
  induction xs with
  | nil =>
      intro x f l hitems hready hindent
      obtain ⟨hx, hwf⟩ := hitems x List.mem_cons_self
      rw [writeItems_cons, writeItems, joinLines_single] at hready
      have hitem := reads_item hx hwf hready hindent hnext hend
      simpa [keysFitItems, itemTokens] using hitem
  | cons y ys ih =>
      intro x f l hitems hready hindent
      obtain ⟨hx, hwf⟩ := hitems x List.mem_cons_self
      obtain ⟨-, hwf'⟩ := hitems y (List.mem_cons_of_mem x List.mem_cons_self)
      have hopen := Frame.enter_indent hindent .blockSequenceStart
      rw [writeItems_cons, writeItems_cons, joinLines_cons, ← writeItems_cons] at hready
      have hstarts : Starts (joinLines level (writeItems level (y :: ys))
          ++ (newLine below ++ next)) := by
        rw [writeItems_cons]
        exact joinLines_starts fun r => ⟨by decide, by decide⟩
      rw [List.append_assoc, List.cons_append, List.cons_append, List.append_assoc] at hready
      have hitem := reads_item hx hwf hready hindent hstarts (.inr (Nat.le_refl _))
      -- the first item leaves the list open, so the others do not begin it again
      have hall := Goes.seq hitem fun l' hl' =>
        ih (fun z hz => hitems z (List.mem_cons_of_mem x hz)) hl' (by simp [hopen])
      rw [Frame.enter_again (by simp [hopen])] at hall
      simpa [keysFitItems, itemTokens] using hall

/-! ## §5. Mappings. -/

theorem reads_compound {level below : Nat} {k v : Value} {f : Frame} {next : List Char} {l : Lexer}
    (hk : Reads k) (hkwf : k.WellFormed) (hv : Reads v) (hvwf : v.WellFormed)
    (hready : Ready ('?' :: ' ' :: (k.write (level + 1) ++ (newLine level
      ++ ':' :: ' ' :: (v.write (level + 1) ++ (newLine below ++ next))))) (2 * level) true f l)
    (hindent : f.indent ≤ (2 * level : Nat)) (hnext : Starts next)
    (hend : next = [] ∨ below ≤ level) :
    Goes l (k.keysFit && v.keysFit) (Ready next (2 * below) true
      ((f.enter (2 * level) .blockMappingStart).push
        (v.tokens.reverse ++ .value :: (k.tokens.reverse ++ [.key])))) := by
  have hopen := Frame.enter_indent hindent .blockMappingStart
  have hkey := hready.mark
    (show ('?', Token.blockMappingStart, Token.key) ∈ Ready.marks by decide) hindent
    (starts_write hkwf _ _)
  refine Goes.next hkey fun l₁ h₁ => ?_
  have hdeeper : (f.enter (2 * level) .blockMappingStart).indent < (2 * (level + 1) : Nat) := by
    rw [hopen]
    omega
  -- the key ends before its colon, which stands at the column of its question mark
  have hnode := hk.fresh h₁ (by rw [Frame.push_indent]; exact hdeeper) ⟨by decide, by decide⟩
    (.inr (by simp [hopen]))
  refine Goes.seq hnode fun l₂ h₂ => ?_
  have hvalue := h₂.mark
    (show (':', Token.blockMappingStart, Token.value) ∈ Ready.marks by decide)
    (by simp [hopen]) (starts_write hvwf _ _)
  rw [Frame.enter_again (by simp [hopen])] at hvalue
  refine Goes.next hvalue fun l₃ h₃ => ?_
  have hlast := hv.fresh h₃ (by simp only [Frame.push_indent]; exact hdeeper) hnext
    (hend.imp_right fun h => by simp [hopen]; omega)
  simpa using hlast

/-- What stands between a simple key and its value ends a word. -/
theorem endsWord_leadIn (v : Value) (level : Nat) (rest : List Char) :
    endsWord (v.leadIn false level ++ rest) = true := by
  unfold Value.leadIn
  cases v.isFilled with
  | true => rfl
  | false => rfl

/-- A value after a simple key: on the next line if it is a filled collection,
on the same line otherwise. -/
theorem reads_afterColon {level below column : Nat} {v : Value} {f : Frame} {next : List Char}
    {l : Lexer} (hv : Reads v) (hwf : v.WellFormed)
    (hready : Ready (v.leadIn false (level + 1) ++ (v.write (level + 1)
      ++ (newLine below ++ next))) column false f l)
    (hindent : f.indent = (2 * level : Nat)) (hcolumn : 2 * level ≤ column) (hnext : Starts next)
    (hend : next = [] ∨ ((2 * below : Nat) : Int) ≤ f.indent) :
    Goes l v.keysFit (Ready next (2 * below) true (f.push v.tokens.reverse)) := by
  have hstarts := starts_write hwf (level + 1) (newLine below ++ next)
  unfold Value.leadIn at hready
  cases hfilled : v.isFilled with
  | true =>
      rw [hfilled, Bool.not_false, Bool.and_self, if_pos rfl] at hready
      -- a filled collection begins a line of its own, where a block may begin
      refine Goes.next (hready.skipLine hstarts) fun l' hl' => ?_
      exact hv.fresh hl' (by omega) hnext hend
  | false =>
      rw [hfilled, Bool.false_and, if_neg (by decide)] at hready
      refine Goes.next (hready.skipSpace hstarts) fun l' hl' => ?_
      -- no block may begin behind the colon, and an unfilled value needs none
      refine hv hl' (fun h => ?_) (by omega) hnext hend
      rw [hfilled] at h
      cases h

theorem reads_simple {level below : Nat} {k v : Value} {f : Frame} {next : List Char} {l : Lexer}
    (hkwf : k.WellFormed) (hscalar : k.isCollection = false) (hv : Reads v) (hvwf : v.WellFormed)
    (hready : Ready (spell k.isPlain k.spelling ++ ':' :: (v.leadIn false (level + 1)
      ++ (v.write (level + 1) ++ (newLine below ++ next)))) (2 * level) true f l)
    (hindent : f.indent ≤ (2 * level : Nat)) (hnext : Starts next)
    (hend : next = [] ∨ below ≤ level) :
    Goes l (decide ((k.write 0).length ≤ Lexer.keyReach) && v.keysFit)
      (Ready next (2 * below) true ((f.enter (2 * level) .blockMappingStart).push
        (v.tokens.reverse ++ .value :: (k.tokens.reverse ++ [.key])))) := by
  have hopen := Frame.enter_indent hindent .blockMappingStart
  have hkey := hready.simpleKey (Value.isWord_spelling hkwf hscalar) hindent
    (endsWord_leadIn v _ _)
  rw [← Value.write_scalar hscalar 0] at hkey
  refine Goes.seq hkey fun l' hl' => ?_
  have hvalue := reads_afterColon hv hvwf hl' (by rw [Frame.push_indent, hopen]) (by omega) hnext
    (hend.imp_right fun h => by rw [Frame.push_indent, hopen]; omega)
  rw [Value.tokens_scalar hscalar]
  simpa using hvalue

/-- One entry of a mapping, in a frame where the mapping may have begun. -/
theorem reads_entry {level below : Nat} {k v : Value} {f : Frame} {next : List Char} {l : Lexer}
    (hk : Reads k) (hkwf : k.WellFormed) (hv : Reads v) (hvwf : v.WellFormed)
    (hready : Ready (writeEntry level k v ++ (newLine below ++ next)) (2 * level) true f l)
    (hindent : f.indent ≤ (2 * level : Nat)) (hnext : Starts next)
    (hend : next = [] ∨ below ≤ level) :
    Goes l ((k.isCollection || decide ((k.write 0).length ≤ Lexer.keyReach))
        && k.keysFit && v.keysFit)
      (Ready next (2 * below) true ((f.enter (2 * level) .blockMappingStart).push
        (v.tokens.reverse ++ .value :: (k.tokens.reverse ++ [.key])))) := by
  unfold writeEntry at hready
  cases hcollection : k.isCollection with
  | true =>
      rw [hcollection, if_pos rfl] at hready
      exact reads_compound hk hkwf hv hvwf (by simpa using hready) hindent hnext hend
  | false =>
      rw [hcollection, if_neg (by decide)] at hready
      rw [Value.keysFit_scalar hcollection, Bool.and_true]
      exact reads_simple hkwf hcollection hv hvwf (by simpa using hready) hindent hnext hend

/-- The entries of a mapping, in a frame where the mapping may have begun. -/
theorem reads_entries {level below : Nat} {next : List Char} (hnext : Starts next)
    (hend : next = [] ∨ below ≤ level) (es : List Entry) :
    ∀ {e : Entry} {f : Frame} {l : Lexer},
      (∀ d ∈ e :: es, (Reads d.1 ∧ d.1.WellFormed) ∧ Reads d.2 ∧ d.2.WellFormed) →
      Ready (joinLines level (writeEntries level (e :: es)) ++ (newLine below ++ next)) (2 * level)
        true f l →
      f.indent ≤ (2 * level : Nat) →
      Goes l (keysFitEntries (e :: es))
        (Ready next (2 * below) true
          ((f.enter (2 * level) .blockMappingStart).push (entryTokens (e :: es)).reverse)) := by
  induction es with
  | nil =>
      intro e f l hentries hready hindent
      obtain ⟨⟨hk, hkwf⟩, hv, hvwf⟩ := hentries e List.mem_cons_self
      obtain ⟨k, v⟩ := e
      rw [writeEntries_cons, writeEntries, joinLines_single] at hready
      have hentry := reads_entry hk hkwf hv hvwf hready hindent hnext hend
      simpa [keysFitEntries, entryTokens] using hentry
  | cons d es ih =>
      intro e f l hentries hready hindent
      obtain ⟨⟨hk, hkwf⟩, hv, hvwf⟩ := hentries e List.mem_cons_self
      obtain ⟨⟨-, hkwf'⟩, -, -⟩ := hentries d (List.mem_cons_of_mem e List.mem_cons_self)
      obtain ⟨k, v⟩ := e
      obtain ⟨k', v'⟩ := d
      have hopen := Frame.enter_indent hindent .blockMappingStart
      have hstarts : Starts (joinLines level (writeEntries level ((k', v') :: es))
          ++ (newLine below ++ next)) := by
        rw [writeEntries_cons]
        exact joinLines_starts (starts_writeEntry hkwf' level v')
      rw [writeEntries_cons, writeEntries_cons, joinLines_cons, ← writeEntries_cons,
        List.append_assoc, List.append_assoc] at hready
      have hentry := reads_entry hk hkwf hv hvwf hready hindent hstarts (.inr (Nat.le_refl _))
      -- as for the items of a list: the mapping is open after its first entry
      have hall := Goes.seq hentry fun l' hl' =>
        ih (fun x hx => hentries x (List.mem_cons_of_mem _ hx)) hl' (by simp [hopen])
      rw [Frame.enter_again (by simp [hopen])] at hall
      simpa [keysFitEntries, entryTokens] using hall

/-! ## §6. Values. -/

/-- The collection that holds all parts ends before a line that is indented
less. -/
theorem Goes.closing {level below : Nat} {t : Token} {ts : List Token} {f : Frame}
    {next : List Char} {l : Lexer} {ok : Bool}
    (h : Goes l ok (Ready next (2 * below) true ((f.enter (2 * level) t).push ts)))
    (hlevel : f.indent < (2 * level : Nat)) (hnext : Starts next)
    (hend : next = [] ∨ ((2 * below : Nat) : Int) ≤ f.indent) :
    Goes l ok (Ready next (2 * below) true (f.push (.blockEnd :: (ts ++ [t])))) := by
  rw [Frame.enter_new hlevel] at h
  -- the end of a collection needs no key, so it cannot fail
  have hall := h.seq (b := true) fun l' hl' => hl'.close hlevel hnext hend
  rw [Bool.and_true] at hall
  simpa [Frame.push] using hall

/-- **Every written value is read.** -/
theorem reads {v : Value} (h : v.WellFormed) : Reads v := by
  induction h with
  | null => exact reads_scalar .null rfl
  | bad => exact reads_scalar .bad rfl
  | bool b => exact reads_scalar (.bool b) rfl
  | int n => exact reads_scalar (.int n) rfl
  | real hs => exact reads_scalar (.real hs) rfl
  | str s => exact reads_scalar (.str s) rfl
  | @list xs hwf ih =>
      intro level below column allowed f next l hready hfilled hcolumn hnext hend
      cases xs with
      | nil =>
          exact hready.hollow (show ('[', ']', Token.flowSequenceStart, Token.flowSequenceEnd)
            ∈ Lexer.brackets by decide) hcolumn hnext
      | cons x xs =>
          obtain ⟨rfl, rfl, hlevel⟩ := hfilled rfl
          unfold Value.write at hready
          rw [if_neg (by simp)] at hready
          have hitems := reads_items hnext (hend.imp_right (by omega)) xs
            (fun y hy => ⟨ih y hy, hwf y hy⟩) hready (by omega)
          have hclosed := Goes.closing hitems hlevel hnext hend
          simpa [Value.keysFit, Value.tokens] using hclosed
  | @map es _ hkeys hvalues ihkeys ihvalues =>
      intro level below column allowed f next l hready hfilled hcolumn hnext hend
      cases es with
      | nil =>
          exact hready.hollow (show ('\x7b', '\x7d', Token.flowMappingStart, Token.flowMappingEnd)
            ∈ Lexer.brackets by decide) hcolumn hnext
      | cons e es =>
          obtain ⟨rfl, rfl, hlevel⟩ := hfilled rfl
          unfold Value.write at hready
          rw [if_neg (by simp)] at hready
          have hentries := reads_entries hnext (hend.imp_right (by omega)) es
            (fun d hd => ⟨⟨ihkeys d hd, hkeys d hd⟩, ihvalues d hd, hvalues d hd⟩) hready (by omega)
          have hclosed := Goes.closing hentries hlevel hnext hend
          simpa [Value.keysFit, Value.tokens] using hclosed

/-! ## §7. Documents. -/

/-- The characters that a document's text does not hold: the text ends at the
first, and the second may be dropped. -/
def isForeign (c : Char) : Bool :=
  c = '\x00' || c = '\r'

theorem not_isForeign_of_all {cs : List Char} (h : cs.all (fun c => !isForeign c) = true) :
    ∀ c ∈ cs, isForeign c = false := by
  intro c hc
  rw [← Bool.not_eq_true']
  exact List.all_eq_true.1 h c hc

theorem not_isForeign_word {cs : List Char} (h : isWord cs = true) :
    ∀ c ∈ cs, isForeign c = false := by
  simp only [isWord, Bool.and_eq_true, List.all_eq_true, Bool.not_eq_true'] at h
  intro c hc
  have hplain := h.1.2 c hc
  rw [Bool.eq_false_iff]
  intro hforeign
  simp only [isForeign, Bool.or_eq_true, decide_eq_true_eq] at hforeign
  rcases hforeign with rfl | rfl
  · exact absurd hplain (by decide)
  · exact absurd hplain (by decide)

theorem not_isForeign_spell {plain : Bool} {s : String}
    (hword : plain = true → isWord s.toList = true) :
    ∀ c ∈ spell plain s, isForeign c = false := by
  cases plain with
  | true => exact not_isForeign_word (hword rfl)
  | false =>
      intro c hc
      unfold spell at hc
      rw [if_neg (by decide), List.mem_cons, List.mem_append, List.mem_flatMap] at hc
      rcases hc with rfl | ⟨d, -, hd⟩ | hc
      · decide
      · have hprintable := List.all_eq_true.1 (escapeChar_printable d) c hd
        rw [Bool.eq_false_iff]
        intro hforeign
        simp only [isForeign, Bool.or_eq_true, decide_eq_true_eq] at hforeign
        rcases hforeign with rfl | rfl
        · exact absurd hprintable (by decide)
        · exact absurd hprintable (by decide)
      · rw [List.mem_singleton.1 hc]
        decide

theorem not_isForeign_newLine (level : Nat) : ∀ c ∈ newLine level, isForeign c = false := by
  intro c hc
  unfold newLine indentation at hc
  rcases List.mem_cons.1 hc with rfl | hc
  · decide
  · rw [List.eq_of_mem_replicate hc]
    decide

theorem not_isForeign_joinLines {level : Nat} (ps : List (List Char))
    (h : ∀ p ∈ ps, ∀ c ∈ p, isForeign c = false) :
    ∀ c ∈ joinLines level ps, isForeign c = false := by
  induction ps with
  | nil => intro c hc; cases hc
  | cons p ps ih =>
      cases ps with
      | nil =>
          rw [joinLines_single]
          exact h p List.mem_cons_self
      | cons q ps =>
          rw [joinLines_cons]
          intro c hc
          rcases List.mem_append.1 hc with hc | hc
          · exact h p List.mem_cons_self c hc
          rcases List.mem_append.1 hc with hc | hc
          · exact not_isForeign_newLine level c hc
          · exact ih (fun r hr => h r (List.mem_cons_of_mem p hr)) c hc

theorem not_isForeign_leadIn (v : Value) (level : Nat) :
    ∀ c ∈ v.leadIn false level, isForeign c = false := by
  unfold Value.leadIn
  cases v.isFilled with
  | true => exact not_isForeign_newLine level
  | false =>
      rw [Bool.false_and, if_neg (by decide)]
      exact not_isForeign_of_all (by decide)

theorem not_isForeign_writeItems {level : Nat} (xs : List Value)
    (h : ∀ x ∈ xs, ∀ n, ∀ c ∈ x.write n, isForeign c = false) :
    ∀ p ∈ writeItems level xs, ∀ c ∈ p, isForeign c = false := by
  induction xs with
  | nil => intro p hp; cases hp
  | cons x xs ih =>
      rw [writeItems_cons]
      refine List.forall_mem_cons.2 ⟨?_, ih fun y hy => h y (List.mem_cons_of_mem x hy)⟩
      exact List.forall_mem_cons.2 ⟨by decide, List.forall_mem_cons.2
        ⟨by decide, h x List.mem_cons_self (level + 1)⟩⟩

theorem not_isForeign_writeEntry {level : Nat} {k v : Value} (hwf : k.WellFormed)
    (hk : ∀ n, ∀ c ∈ k.write n, isForeign c = false)
    (hv : ∀ n, ∀ c ∈ v.write n, isForeign c = false) :
    ∀ c ∈ writeEntry level k v, isForeign c = false := by
  unfold writeEntry
  cases hcollection : k.isCollection with
  | true =>
      rw [if_pos rfl]
      refine List.forall_mem_cons.2 ⟨by decide, List.forall_mem_cons.2 ⟨by decide, ?_⟩⟩
      refine List.forall_mem_append.2 ⟨hk _, List.forall_mem_append.2
        ⟨not_isForeign_newLine level, ?_⟩⟩
      exact List.forall_mem_cons.2 ⟨by decide, List.forall_mem_cons.2 ⟨by decide, hv _⟩⟩
  | false =>
      rw [if_neg (by decide)]
      refine List.forall_mem_append.2
        ⟨not_isForeign_spell (Value.isWord_spelling hwf hcollection), ?_⟩
      exact List.forall_mem_cons.2 ⟨by decide,
        List.forall_mem_append.2 ⟨not_isForeign_leadIn v _, hv _⟩⟩

theorem not_isForeign_writeEntries {level : Nat} (es : List Entry)
    (h : ∀ e ∈ es, e.1.WellFormed ∧ (∀ n, ∀ c ∈ e.1.write n, isForeign c = false)
      ∧ ∀ n, ∀ c ∈ e.2.write n, isForeign c = false) :
    ∀ p ∈ writeEntries level es, ∀ c ∈ p, isForeign c = false := by
  induction es with
  | nil => intro p hp; cases hp
  | cons e es ih =>
      obtain ⟨k, v⟩ := e
      obtain ⟨hwf, hk, hv⟩ := h (k, v) List.mem_cons_self
      rw [writeEntries_cons]
      exact List.forall_mem_cons.2 ⟨not_isForeign_writeEntry hwf hk hv,
        ih fun e he => h e (List.mem_cons_of_mem _ he)⟩

theorem not_isForeign_write {v : Value} (h : v.WellFormed) :
    ∀ level, ∀ c ∈ v.write level, isForeign c = false := by
  -- stated for every scalar, so that the induction below has one line for each
  have hscalar : ∀ {w : Value}, w.WellFormed → w.isCollection = false →
      ∀ level, ∀ c ∈ w.write level, isForeign c = false := by
    intro w hw hw' level
    rw [Value.write_scalar hw']
    exact not_isForeign_spell (Value.isWord_spelling hw hw')
  induction h with
  | null => exact hscalar .null rfl
  | bad => exact hscalar .bad rfl
  | bool b => exact hscalar (.bool b) rfl
  | int n => exact hscalar (.int n) rfl
  | real hs => exact hscalar (.real hs) rfl
  | str s => exact hscalar (.str s) rfl
  | @list xs _ ih =>
      intro level
      unfold Value.write
      split
      · exact not_isForeign_of_all (by decide)
      · exact not_isForeign_joinLines _ (not_isForeign_writeItems xs ih)
  | @map es _ hkeys _ ihkeys ihvalues =>
      intro level
      unfold Value.write
      split
      · exact not_isForeign_of_all (by decide)
      · exact not_isForeign_joinLines _ (not_isForeign_writeEntries es fun e he =>
          ⟨hkeys e he, ihkeys e he, ihvalues e he⟩)

theorem dropReturns_self (cs : List Char) (h : ∀ c ∈ cs, isForeign c = false) :
    Cursor.dropReturns cs = cs := by
  induction cs with
  | nil => rfl
  | cons c cs ih =>
      have hc := h c List.mem_cons_self
      have hrest := ih fun d hd => h d (List.mem_cons_of_mem c hd)
      cases cs with
      | nil => rfl
      | cons d r =>
          have hreturn : c ≠ '\r' := by
            intro heq
            subst heq
            exact absurd hc (by decide)
          rw [Cursor.dropReturns, if_neg (by simp [hreturn]), hrest]

theorem ofText_self {cs : List Char} (h : ∀ c ∈ cs, isForeign c = false) :
    Cursor.ofText (String.ofList cs) = ⟨cs, Mark.start⟩ := by
  -- without the two characters neither the cut nor the dropping of returns does anything
  have hnul : cs.takeWhile (· ≠ '\x00') = cs := by
    have hall : ∀ c ∈ cs, decide (c ≠ '\x00') = true := by
      intro c hc
      have hforeign := h c hc
      simp only [isForeign, Bool.or_eq_false_iff, decide_eq_false_iff_not] at hforeign
      simpa using hforeign.1
    have htake : (cs ++ []).takeWhile (· ≠ '\x00') = cs ++ [].takeWhile (· ≠ '\x00') :=
      List.takeWhile_append_of_pos hall
    simpa using htake
  unfold Cursor.ofText
  rw [String.toList_ofList, hnul, dropReturns_self cs h]

theorem start_emit {v : Value} (h : v.WellFormed) :
    (Lexer.start v.emit).cursor
      = ⟨'-' :: '-' :: '-' :: (newLine 0 ++ (v.write 0 ++ (newLine 0 ++ []))), Mark.start⟩ := by
  have hforeign : ∀ c ∈ ['-', '-', '-', '\n'] ++ v.write 0 ++ ['\n'], isForeign c = false :=
    List.forall_mem_append.2
      ⟨List.forall_mem_append.2 ⟨not_isForeign_of_all (by decide), not_isForeign_write h 0⟩,
        not_isForeign_of_all (by decide)⟩
  unfold Lexer.start Value.emit
  rw [ofText_self hforeign]
  simp [newLine, indentation]

/-- The start of a document, up to its value. -/
theorem goes_documentStart {v : Value} (h : v.WellFormed) :
    Goes (Lexer.start v.emit) true
      (Ready (v.write 0 ++ (newLine 0 ++ [])) 0 true ⟨-1, [], [.documentStart]⟩) := by
  have hcursor := start_emit h
  have hready : Ready ('-' :: '-' :: '-' :: (newLine 0 ++ (v.write 0 ++ (newLine 0 ++ []))))
      0 true ⟨-1, [], []⟩ (Lexer.start v.emit) :=
    ⟨by rw [hcursor], by rw [hcursor]; rfl, rfl, rfl, rfl, rfl, rfl, rfl, rfl⟩
  -- the text begins with the three dashes of a document, at the left margin
  have hdocument : atDocumentMark (Lexer.start v.emit).cursor.mark
      ('-' :: '-' :: '-' :: (newLine 0 ++ (v.write 0 ++ (newLine 0 ++ [])))) = true := by
    rw [hcursor]
    rfl
  have hstep := hready.step?_eq ⟨by decide, by decide⟩ (by decide)
  unfold Lexer.next? at hstep
  rw [if_neg (by simp), hdocument, if_pos rfl, if_pos rfl] at hstep
  -- no collection is open and no key is waiting, so reading the mark ends nothing
  unfold Lexer.readSeparator? at hstep
  rw [Lexer.unroll_self rfl (Int.le_refl (-1)), Lexer.dropKey?_idle rfl] at hstep
  refine Goes.after (Lexer.Leads.of_step hstep ?_) ?_
  · show ((Lexer.start v.emit).cursor.rest.drop 3).length < _
    rw [hcursor]
    simp
    omega
  · have hrest : ((Lexer.start v.emit).cursor.drop 3).rest
        = newLine 0 ++ (v.write 0 ++ (newLine 0 ++ [])) := by
      rw [hcursor]
      rfl
    have hcolumn : ((Lexer.start v.emit).cursor.drop 3).mark.column = 3 := by
      rw [hcursor]
      rfl
    have hline : Ready (newLine 0 ++ (v.write 0 ++ (newLine 0 ++ []))) 3 false
        ⟨-1, [], [.documentStart]⟩ ((((Lexer.start v.emit).allowKey false).moveTo
          ((Lexer.start v.emit).cursor.drop 3)).emit .documentStart) :=
      ⟨hrest, hcolumn, rfl, rfl, rfl, rfl, rfl, rfl, rfl⟩
    exact hline.skipLine (starts_write h _ _)

/-- The lexer stops at the end of a text with the tokens that it has. -/
theorem run?_end {tokens : List Token} {l : Lexer} (h : Ready [] 0 true ⟨-1, [], tokens⟩ l)
    (n : Nat) : l.run? (n + 1) = some l := by
  have hstep : l.step? = some (l, true) := by
    unfold Lexer.step?
    rw [h.skipGap_self trivial, h.unexpired]
    simp only [Option.bind_eq_bind, Option.bind_some]
    have hcolumn : l.indent ≤ (l.cursor.mark.column : Int) := by
      rw [h.indent, h.column]
      show (-1 : Int) ≤ 0
      decide
    rw [Lexer.unroll_self h.depth hcolumn, h.rest]
    show ((l.unroll (-1)).dropKey?.bind fun l => some (l, true)) = _
    rw [Lexer.unroll_self h.depth (Int.le_of_eq h.indent), Lexer.dropKey?_idle h.idle]
    rfl
  rw [Lexer.run?_succ, hstep]
  rfl

/-- **The tokens of a document.** -/
theorem tokens?_emit {v : Value} (h : v.WellFormed) :
    tokens? v.emit = if v.keysFit then some (.documentStart :: v.tokens) else none := by
  have hgoes : Goes (Lexer.start v.emit) v.keysFit
      (Ready [] (2 * 0) true ((⟨-1, [], [.documentStart]⟩ : Frame).push v.tokens.reverse)) :=
    Goes.next (goes_documentStart h) fun l hl =>
      Reads.fresh (reads h) hl (show (-1 : Int) < 0 by decide) trivial (.inl rfl)
  unfold tokens?
  cases hfits : v.keysFit with
  | false =>
      rw [hfits] at hgoes
      show ((Lexer.start v.emit).run? _).map _ = _
      rw [hgoes]
      rfl
  | true =>
      rw [hfits] at hgoes
      obtain ⟨l, ⟨k, hk, hrun⟩, hready⟩ := hgoes
      -- the steps that are left are enough for the last one, at the end of the text
      have hsteps : (Lexer.start v.emit).cursor.rest.length + 1
          = ((Lexer.start v.emit).cursor.rest.length - k + 1) + k := by
        omega
      show ((Lexer.start v.emit).run? _).map _ = _
      rw [hsteps, hrun, run?_end hready, Option.map_some, hready.tokens, if_pos rfl]
      simp [Frame.push]

end ClusterBoot.Yaml
