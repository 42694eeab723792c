/-
  ClusterBoot.Proofs.Yaml.ScalarText
  ────────────────────────────────
  **THE CHARACTERS OF A WRITTEN SCALAR ARE READ BACK.**

  Plain and double-quoted scalars are both read into a `Folding`, one
  character after the other: a space widens its gap, any other character is
  pushed (`Folding.take`).  So both readers are a fold of `take` over the
  characters of the text (`plainFrom_word`, `doubleFrom_escaped`), as long as
  the text stays on its line.
-/
import ClusterBoot.Proofs.Yaml.Words
import ClusterBoot.Yaml.Folded

namespace ClusterBoot.Yaml

/-! ## §1. Marks. -/

namespace Mark

@[simp] theorem past_nil (m : Mark) : m.past [] = m := rfl

@[simp] theorem past_cons (m : Mark) (c : Char) (cs : List Char) :
    m.past (c :: cs) = (m.after c).past cs := rfl

theorem past_append (m : Mark) (cs ds : List Char) : m.past (cs ++ ds) = (m.past cs).past ds := by
  unfold past
  rw [List.foldl_append]

theorem after_of_ne {c : Char} (m : Mark) (h : c ≠ '\n') :
    m.after c = ⟨m.index + 1, m.line, m.column + 1⟩ := by
  unfold after
  rw [if_neg h]

/-- Characters on one line move the mark along it. -/
theorem past_line (cs : List Char) (h : '\n' ∉ cs) :
    ∀ m : Mark, m.past cs = ⟨m.index + cs.length, m.line, m.column + cs.length⟩ := by
  induction cs with
  | nil => intro m; rfl
  | cons c cs ih =>
      intro m
      have hc : c ≠ '\n' := fun heq => h (heq ▸ List.mem_cons_self)
      rw [past_cons, ih (fun hmem => h (List.mem_cons_of_mem c hmem)), after_of_ne m hc]
      rw [List.length_cons]
      congr 1
      · show m.index + 1 + cs.length = _
        omega
      · show m.column + 1 + cs.length = _
        omega

/-- The mark at the start of an indented line. -/
theorem past_newLine (m : Mark) (level : Nat) :
    m.past (newLine level) = ⟨m.index + 1 + 2 * level, m.line + 1, 2 * level⟩ := by
  unfold newLine indentation
  rw [past_cons, past_line _ (by simp)]
  simp [after]

end Mark

theorem atDocumentMark_of_pos {m : Mark} (h : 0 < m.column) (cs : List Char) :
    atDocumentMark m cs = false := by
  have hne : m.column ≠ 0 := by omega
  simp [atDocumentMark, hne]

/-! ## §2. Taking one character after the other. -/

namespace Folding

/-- A scalar in the making with one more character of its line. -/
def take (f : Folding) (c : Char) : Folding :=
  if c = ' ' then f.widen c else f.push c

/-- A scalar in the making with more characters of its line. -/
def takeAll (f : Folding) (cs : List Char) : Folding :=
  cs.foldl take f

@[simp] theorem takeAll_cons (f : Folding) (c : Char) (cs : List Char) :
    f.takeAll (c :: cs) = (f.take c).takeAll cs := rfl

theorem push_close (f : Folding) (c : Char) : f.close.push c = f.push c := by
  unfold push
  simp [close, gap]

/-- Taking a character keeps everything that was read, gap included. -/
theorem take_unbroken {f : Folding} (h : f.broken = false) (c : Char) :
    (f.take c).broken = false
      ∧ (f.take c).spaces ++ (f.take c).text = c :: (f.spaces ++ f.text) := by
  unfold take
  split
  · rename_i hc
    subst hc
    have hnobreak : isBreak ' ' = false := by decide
    simp [widen, hnobreak, h]
  · simp [push, close, gap, h]

theorem takeAll_unbroken (cs : List Char) :
    ∀ {f : Folding}, f.broken = false →
      (f.takeAll cs).broken = false
        ∧ (f.takeAll cs).spaces ++ (f.takeAll cs).text = cs.reverse ++ (f.spaces ++ f.text) := by
  induction cs with
  | nil => intro f h; exact ⟨h, rfl⟩
  | cons c cs ih =>
      intro f h
      obtain ⟨hbroken, htake⟩ := take_unbroken h c
      obtain ⟨hall, heq⟩ := ih hbroken
      -- both lists are kept backwards, so the new character stands in front of what was read
      refine ⟨hall, ?_⟩
      rw [takeAll_cons, heq, htake]
      simp

/-- No gap is left open when the last character is no space. -/
theorem takeAll_spaces {cs : List Char} (hne : cs ≠ []) (hlast : cs.getLast? ≠ some ' ')
    (f : Folding) : (f.takeAll cs).spaces = [] := by
  -- the last character is pushed, and a push closes the gap whatever came before
  obtain ⟨ds, d, rfl⟩ : ∃ ds d, cs = ds ++ [d] :=
    ⟨cs.dropLast, cs.getLast hne, (List.dropLast_concat_getLast hne).symm⟩
  have hd : d ≠ ' ' := by
    intro heq
    subst heq
    simp at hlast
  show ((ds ++ [d]).foldl take f).spaces = []
  rw [List.foldl_append]
  simp [take, hd, push, close]

theorem toText_takeAll {cs : List Char} (hne : cs ≠ []) (hlast : cs.getLast? ≠ some ' ') :
    (empty.takeAll cs).toText = String.ofList cs := by
  obtain ⟨-, heq⟩ := takeAll_unbroken cs (f := empty) rfl
  rw [takeAll_spaces hne hlast] at heq
  unfold toText
  rw [show (empty.takeAll cs).text = cs.reverse by simpa [empty] using heq, List.reverse_reverse]

theorem toText_close_takeAll (cs : List Char) :
    (empty.takeAll cs).close.toText = String.ofList cs := by
  obtain ⟨hbroken, heq⟩ := takeAll_unbroken cs (f := empty) rfl
  unfold toText close gap
  rw [hbroken, if_neg (by decide), heq]
  simp [empty]

end Folding

/-! ## §3. Plain scalars. -/

/-- Whether a token can begin here, or the text ends. -/
def Starts : List Char → Prop
  | [] => True
  | c :: _ => isGap c = false ∧ c ≠ '#'

theorem isGap_of_word {c : Char} (h : endsWordEarly c = false) (hspace : c ≠ ' ') :
    isGap c = false := by
  -- the other gaps are the tab and the breaks, which no word holds
  have hne : ∀ d ∈ ['\t', '\n', '\r'], c ≠ d := by
    intro d hd heq
    subst heq
    have hends : ∀ x ∈ ['\t', '\n', '\r'], endsWordEarly x = true :=
      List.all_eq_true.1 (by decide)
    rw [hends c hd] at h
    cases h
  simp [isGap, isBlank, isBreak, hspace, hne '\t' (by decide), hne '\n' (by decide),
    hne '\r' (by decide)]

theorem plainFrom_push {indent : Int} {f : Folding} {m : Mark} {c : Char} (r : List Char)
    (hc : endsWordEarly c = false) (hspace : c ≠ ' ')
    (hgap : f.inGap = true → indent ≤ (m.column : Int) ∧ 0 < m.column) :
    plainFrom indent false f m (c :: r) = plainFrom indent false (f.push c) (m.after c) r := by
  have hcolon : c ≠ ':' := by
    intro heq
    subst heq
    exact absurd hc (by decide)
  have hhash : c ≠ '#' := by
    intro heq
    subst heq
    exact absurd hc (by decide)
  -- only a colon ends a plain scalar outside a flow collection
  have hends : endsPlain false (c :: r) = false := by
    unfold endsPlain
    split
    · rename_i heq
      cases heq
    · rename_i heq
      cases heq
      exact absurd rfl hcolon
    · rfl
  -- a gap is the only place where the column, a document mark or a comment counts
  have hstop : (f.inGap && ((!false && decide ((m.column : Int) < indent))
      || atDocumentMark m (c :: r) || c = '#')) = false := by
    cases hin : f.inGap with
    | false => rfl
    | true =>
        obtain ⟨hcolumn, hpos⟩ := hgap hin
        rw [atDocumentMark_of_pos hpos]
        simp [hhash, hcolumn]
  rw [plainFrom, if_neg (by rw [isGap_of_word hc hspace]; decide), hstop, if_neg (by decide),
    hends, if_neg (by decide)]

/-- The characters of a word are taken one after the other. -/
theorem plainFrom_line {indent : Int} {rest : List Char} (cs : List Char)
    (h : ∀ c ∈ cs, endsWordEarly c = false) :
    ∀ {f : Folding} {m : Mark}, f.broken = false → indent ≤ (m.column : Int) → 0 < m.column →
      plainFrom indent false f m (cs ++ rest)
        = plainFrom indent false (f.takeAll cs) (m.past cs) rest := by
  induction cs with
  | nil => intro f m _ _ _; rfl
  | cons c cs ih =>
      intro f m hbroken hcolumn hpos
      -- the column only grows on the line, so it stays right of the enclosing collection
      have hnext : indent ≤ ((m.after c).column : Int) ∧ 0 < (m.after c).column := by
        have hc : c ≠ '\n' := by
          intro heq
          subst heq
          exact absurd (h _ List.mem_cons_self) (by decide)
        rw [Mark.after_of_ne m hc]
        simp only
        omega
      have hstep : plainFrom indent false f m (c :: (cs ++ rest))
          = plainFrom indent false (f.take c) (m.after c) (cs ++ rest) := by
        unfold Folding.take
        split
        · rename_i hc
          subst hc
          rw [plainFrom, if_pos (by decide), if_neg (by simp)]
        · rename_i hc
          exact plainFrom_push _ (h c List.mem_cons_self) hc fun _ => ⟨hcolumn, hpos⟩
      rw [List.cons_append, hstep,
        ih (fun d hd => h d (List.mem_cons_of_mem c hd)) (Folding.take_unbroken hbroken c).1
          hnext.1 hnext.2]
      rfl

/-- A word is taken as a whole wherever it stands, if not left of the
enclosing collection. -/
theorem plainFrom_word {indent : Int} {m : Mark} {cs rest : List Char} (h : isWord cs = true)
    (hcolumn : indent ≤ (m.column : Int) + 1) :
    plainFrom indent false .empty m (cs ++ rest)
      = plainFrom indent false (Folding.empty.takeAll cs) (m.past cs) rest := by
  simp only [isWord, Bool.and_eq_true, List.all_eq_true, Bool.not_eq_true'] at h
  obtain ⟨⟨hopens, hchars⟩, -⟩ := h
  cases cs with
  | nil => cases hopens
  | cons c cs =>
      have hc := hchars c List.mem_cons_self
      have hgap : isGap c = false := by
        simp only [opensWord, Bool.and_eq_true, Bool.not_eq_true'] at hopens
        exact hopens.1.1
      have hspace : c ≠ ' ' := by
        intro heq
        subst heq
        cases hgap
      have hnewline : c ≠ '\n' := by
        intro heq
        subst heq
        cases hgap
      -- the first character has no gap before it, so its column does not matter
      rw [List.cons_append, plainFrom_push _ hc hspace (fun hin => by cases hin),
        plainFrom_line cs (fun d hd => hchars d (List.mem_cons_of_mem c hd)) rfl
          (by rw [Mark.after_of_ne m hnewline]; simp only; omega)
          (by rw [Mark.after_of_ne m hnewline]; simp only; omega)]
      rw [Folding.takeAll_cons, Folding.take, if_neg hspace]
      rfl

theorem plainFrom_colon {indent : Int} {f : Folding} {m : Mark} {r : List Char}
    (hgap : f.inGap = false) (hr : endsWord r = true) :
    plainFrom indent false f m (':' :: r) = some (f, ⟨':' :: r, m⟩) := by
  rw [plainFrom, if_neg (by decide), hgap, if_neg (by simp), if_pos]
  simp [endsPlain, hr]

theorem plainFrom_spaces {indent : Int} {f : Folding} {rest : List Char} (hbroken : f.broken = true)
    (n : Nat) :
    ∀ m : Mark, plainFrom indent false f m (List.replicate n ' ' ++ rest)
      = plainFrom indent false f (m.past (List.replicate n ' ')) rest := by
  induction n with
  | zero => intro m; rfl
  | succ n ih =>
      intro m
      -- after a break the spaces of an indentation are not kept
      have hwiden : f.widen ' ' = f := by
        unfold Folding.widen
        rw [if_neg (by decide), if_pos hbroken]
      rw [List.replicate_succ, List.cons_append, plainFrom, if_pos (by decide),
        if_neg (by simp), hwiden, ih]
      rfl

/-- A plain scalar ends at a line that is not indented. -/
theorem plainFrom_newLine {indent : Int} {f : Folding} {m : Mark} {level : Nat} {next : List Char}
    (hbroken : f.broken = false) (hnext : Starts next)
    (hindent : next = [] ∨ ((2 * level : Nat) : Int) < indent) :
    plainFrom indent false f m (newLine level ++ next)
      = some (f.widen '\n', ⟨next, m.past (newLine level)⟩) := by
  have hwide : (f.widen '\n').broken = true := by
    simp [Folding.widen, show isBreak '\n' = true by decide, hbroken]
  unfold newLine indentation
  rw [List.cons_append, plainFrom, if_pos (by decide), if_neg (by simp),
    plainFrom_spaces hwide]
  have hcolumn := congrArg Mark.column (Mark.past_newLine m level)
  unfold newLine indentation at hcolumn
  rw [Mark.past_cons] at hcolumn
  cases next with
  | nil => rfl
  | cons c r =>
      obtain ⟨hgap, -⟩ := hnext
      -- the next token is left of the scalar's collection, where a gap ends the scalar
      have hlt : ((2 * level : Nat) : Int) < indent := by
        rcases hindent with h | h
        · cases h
        · exact h
      rw [plainFrom, if_neg (by rw [hgap]; decide), if_pos]
      · rfl
      · simp only at hcolumn
        simp [Folding.inGap, hwide, hcolumn]
        left; left; omega

/-! ## §4. Double-quoted scalars. -/

theorem digitValue?_digit {n : Nat} (h : n < 16) :
    Text.digitValue? 16 (Text.Hex.digit n) = some n := by
  revert n
  decide

theorem Folding.take_of_ne {f : Folding} {c : Char} (h : c ≠ ' ') : f.take c = f.push c :=
  if_neg h

/-- An escaped character that is not a space is taken. -/
theorem doubleFrom_escape {f : Folding} {m : Mark} {c d : Char} {r : List Char} (hpos : 0 < m.column)
    (hspace : c ≠ ' ') (hd : isBreak d = false) (hc : escaped? d = some c) :
    doubleFrom .any f m (['\\', d] ++ r)
      = doubleFrom .any (f.take c) (m.past ['\\', d]) r := by
  show doubleFrom .any f m ('\\' :: d :: r) = _
  rw [Folding.take_of_ne hspace, doubleFrom, if_neg (by decide), if_neg (by decide), atDocumentMark_of_pos hpos,
    if_neg (by decide), if_pos rfl, doubleFrom, hd, if_neg (by decide), hc]
  show doubleFrom .any (f.close.push c) _ r = _
  rw [Folding.push_close]
  rfl

/-- The four digits of an escaped control character. -/
theorem doubleFrom_control {f : Folding} {m : Mark} {c : Char} {r : List Char} (hpos : 0 < m.column)
    (hc : c.toNat < 256) :
    doubleFrom .any f m ('\\' :: 'u' :: '0' :: '0' :: Text.Hex.digit (c.toNat / 16)
        :: Text.Hex.digit (c.toNat % 16) :: r)
      = doubleFrom .any (f.push c) (m.past ['\\', 'u', '0', '0', Text.Hex.digit (c.toNat / 16),
          Text.Hex.digit (c.toNat % 16)]) r := by
  have hhigh := digitValue?_digit (show c.toNat / 16 < 16 by omega)
  have hlow := digitValue?_digit (show c.toNat % 16 < 16 by omega)
  have hzero : Text.digitValue? 16 '0' = some 0 := by decide
  -- the two digits are quotient and remainder, and so give the character's number again
  have hcode : charOfCode? (16 * (c.toNat / 16) + c.toNat % 16) = some c := by
    rw [show 16 * (c.toNat / 16) + c.toNat % 16 = c.toNat by omega]
    unfold charOfCode?
    rw [if_pos (by simp; omega), Char.ofNat_toNat]
  rw [doubleFrom, if_neg (by decide), if_neg (by decide), atDocumentMark_of_pos hpos,
    if_neg (by decide), if_pos rfl]
  simp only [doubleFrom, show isBreak 'u' = false by decide, show escaped? 'u' = none by decide,
    show escapeDigits? 'u' = some 4 by decide, hzero, hhigh, hlow, Bool.false_eq_true, if_false]
  simp [hcode, Folding.push_close]

/-- A character that is written as it is. -/
theorem doubleFrom_bare {f : Folding} {m : Mark} {c : Char} {r : List Char} (hpos : 0 < m.column)
    (hquote : c ≠ '"') (hbackslash : c ≠ '\\') (htab : c ≠ '\t') (hbreak : isBreak c = false) :
    doubleFrom .any f m (c :: r) = doubleFrom .any (f.take c) (m.after c) r := by
  unfold Folding.take
  split
  · rename_i hspace
    subst hspace
    rw [doubleFrom, if_pos (by decide)]
  · rename_i hspace
    have hgap : isGap c = false := by
      simp [isGap, isBlank, hspace, htab, hbreak]
    rw [doubleFrom, hgap, if_neg (by decide), if_neg hquote, atDocumentMark_of_pos hpos,
      if_neg (by decide), if_neg hbackslash]

/-- A character is taken however it is written between quotes. -/
theorem doubleFrom_char {f : Folding} {m : Mark} {r : List Char} (c : Char) (hpos : 0 < m.column) :
    doubleFrom .any f m (escapeChar c ++ r)
      = doubleFrom .any (f.take c) (m.past (escapeChar c)) r := by
  -- one case for each way to write a character; only the last can be a space
  unfold escapeChar
  simp only
  split
  · rename_i h
    subst h
    exact doubleFrom_escape hpos (by decide) (by decide) (by decide)
  split
  · rename_i h
    subst h
    exact doubleFrom_escape hpos (by decide) (by decide) (by decide)
  split
  · rename_i h
    obtain rfl : c = Char.ofNat 0x08 := by rw [← h, Char.ofNat_toNat]
    exact doubleFrom_escape hpos (by decide) (by decide) (by decide)
  split
  · rename_i h
    subst h
    exact doubleFrom_escape hpos (by decide) (by decide) (by decide)
  split
  · rename_i h
    subst h
    exact doubleFrom_escape hpos (by decide) (by decide) (by decide)
  split
  · rename_i h
    obtain rfl : c = Char.ofNat 0x0C := by rw [← h, Char.ofNat_toNat]
    exact doubleFrom_escape hpos (by decide) (by decide) (by decide)
  split
  · rename_i h
    subst h
    exact doubleFrom_escape hpos (by decide) (by decide) (by decide)
  split
  · rename_i h
    simp only [Bool.or_eq_true, decide_eq_true_eq] at h
    have hspace : c ≠ ' ' := by
      intro heq
      subst heq
      revert h
      decide
    rw [Folding.take_of_ne hspace]
    exact doubleFrom_control hpos (by omega)
  · rename_i hquote hbackslash _ htab hnewline _ hreturn _
    exact doubleFrom_bare hpos hquote hbackslash htab (by simp [isBreak, hnewline, hreturn])

/-- Between quotes there are no control characters. -/
theorem escapeChar_printable (c : Char) : (escapeChar c).all (fun d => 0x20 ≤ d.toNat) = true := by
  have hdigit : ∀ n, n < 16 → 0x20 ≤ (Text.Hex.digit n).toNat := by decide
  unfold escapeChar
  simp only
  split
  · decide
  split
  · decide
  split
  · decide
  split
  · decide
  split
  · decide
  split
  · decide
  split
  · decide
  split
  · rename_i h
    simp only [Bool.or_eq_true, decide_eq_true_eq] at h
    have hhigh := hdigit (c.toNat / 16) (by omega)
    have hlow := hdigit (c.toNat % 16) (by omega)
    simp [hhigh, hlow]
  · rename_i h
    simp only [Bool.or_eq_true, decide_eq_true_eq, not_or] at h
    have hprintable : 0x20 ≤ c.toNat := by omega
    simp [hprintable]

theorem newline_not_mem_escapeChar (c : Char) : '\n' ∉ escapeChar c :=
  fun h => absurd (List.all_eq_true.1 (escapeChar_printable c) _ h) (by decide)

/-- **The characters of a quoted text are read back.** -/
theorem doubleFrom_escaped {rest : List Char} (cs : List Char) :
    ∀ {f : Folding} {m : Mark}, 0 < m.column →
      doubleFrom .any f m (cs.flatMap escapeChar ++ '"' :: rest)
        = some ((f.takeAll cs).close, ⟨rest, m.past (cs.flatMap escapeChar ++ ['"'])⟩) := by
  induction cs with
  | nil =>
      intro f m hpos
      rw [List.flatMap_nil, List.nil_append, doubleFrom, if_neg (by decide), if_pos rfl]
      rfl
  | cons c cs ih =>
      intro f m hpos
      -- no break was read, so the cursor is still away from the start of a line
      have hpos' : 0 < (m.past (escapeChar c)).column := by
        rw [Mark.past_line _ (newline_not_mem_escapeChar c)]
        simp only
        omega
      rw [List.flatMap_cons, List.append_assoc, doubleFrom_char c hpos, ih hpos',
        List.append_assoc, Mark.past_append m (escapeChar c)]
      rfl

end ClusterBoot.Yaml
