/-
  ClusterBoot.Proofs.Yaml.Words
  ────────────────────────────────
  **WHAT IS WRITTEN WITHOUT QUOTES, AND WHAT IT MEANS.**

  Null, truth values, numbers and most texts are written as they are.  Each
  of them is a word (`isWord`): it begins like a plain scalar and has no
  character that ends one.

  A text without quotes should be read as a text.  `ofPlain_unquoted` lists
  the exceptions: octal digits after `0o` and digits after a plus and a
  second sign make a whole number (`readsAsInt`), and three spellings of
  infinity make a floating-point number (`readsAsReal`).
-/
import ClusterBoot.Proofs.Numerals
import ClusterBoot.Yaml.Cursor
import ClusterBoot.Yaml.Emit
import ClusterBoot.Yaml.Scalar

namespace ClusterBoot.Yaml

/-! ## §1. Words. -/

/-- Characters that a plain scalar does not begin with. -/
def indicators : List Char :=
  ['[', ']', '\x7b', '\x7d', ',', '?', ':', '*', '&', '!', '|', '>', '\'', '"', '%', '@', '\x60',
   '#']

/-- Whether a word may begin like this.  After a hyphen or a point comes
another character, so that it is neither the mark of an item nor one of a
document. -/
def opensWord : List Char → Bool
  | [] => false
  | c :: r =>
      !isGap c && !indicators.contains c
        && (!(['-', '.'].contains c) || match r with
            | d :: _ => d ≠ c && !isGap d
            | [] => false)

/-- Characters that a word does not hold. -/
def endsWordEarly (c : Char) : Bool :=
  [':', '#', '\t', '\n', '\r', '\x00'].contains c

/-- Whether characters are read as one plain scalar. -/
def isWord (cs : List Char) : Bool :=
  opensWord cs && cs.all (fun c => !endsWordEarly c) && cs.getLast? ≠ some ' '

/-- A word has a character, and the last one is no space. -/
theorem isWord_bounds {cs : List Char} (h : isWord cs = true) :
    cs ≠ [] ∧ cs.getLast? ≠ some ' ' := by
  simp only [isWord, Bool.and_eq_true, decide_eq_true_eq] at h
  refine ⟨?_, h.2⟩
  intro heq
  subst heq
  exact absurd h.1.1 (by decide)

theorem opensWord_of_ne {c : Char} {r : List Char} (hgap : isGap c = false)
    (hindicator : indicators.contains c = false) (hmark : ['-', '.'].contains c = false) :
    opensWord (c :: r) = true := by
  simp only [opensWord, hgap, hindicator, hmark]
  rfl

theorem numeralChar_ascii {c : Char} (h : Text.isNumeralChar c = true) : c.toNat < 128 := by
  simp only [Text.isNumeralChar, Text.isDigit, Bool.or_eq_true, Bool.and_eq_true,
    decide_eq_true_eq, List.contains_iff_mem, List.mem_cons, List.not_mem_nil, or_false] at h
  rcases h with ((h | h) | h) | rfl | rfl | rfl
  · omega
  · omega
  · omega
  · decide
  · decide
  · decide

/-- What can be checked of all characters of numbers, one by one, holds of
each. -/
theorem numeralChar_of_all {p : Char → Bool}
    (hall : ∀ n < 128, Text.isNumeralChar (Char.ofNat n) = true → p (Char.ofNat n) = true)
    {c : Char} (h : Text.isNumeralChar c = true) : p c = true := by
  have hascii := numeralChar_ascii h
  rw [← Char.ofNat_toNat c] at h ⊢
  exact hall _ hascii h

theorem numeralChar_plain {c : Char} (h : Text.isNumeralChar c = true) :
    isGap c = false ∧ indicators.contains c = false ∧ endsWordEarly c = false := by
  have hplain := numeralChar_of_all
    (p := fun c => !isGap c && (!indicators.contains c && !endsWordEarly c)) (by decide) h
  simpa only [Bool.and_eq_true, Bool.not_eq_true'] using hplain

/-- Letters, digits, signs and points make a word when they begin like one. -/
theorem isWord_numeral {cs : List Char} (hopens : opensWord cs = true)
    (h : ∀ c ∈ cs, Text.isNumeralChar c = true) : isWord cs = true := by
  have hall : cs.all (fun c => !endsWordEarly c) = true := by
    rw [List.all_eq_true]
    intro c hc
    rw [(numeralChar_plain (h c hc)).2.2]
    rfl
  have hlast : cs.getLast? ≠ some ' ' := by
    intro heq
    exact absurd (h ' ' (List.mem_of_getLast? heq)) (by decide)
  simp [isWord, hopens, hall, hlast]

theorem opensWord_numeral {c : Char} {r : List Char} (h : Text.isNumeralChar c = true)
    (hminus : c ≠ '-') (hpoint : c ≠ '.') : opensWord (c :: r) = true := by
  obtain ⟨hgap, hindicator, -⟩ := numeralChar_plain h
  exact opensWord_of_ne hgap hindicator (by simp [hminus, hpoint])

/-- A hyphen or a point opens a word before a different character of a number. -/
theorem opensWord_mark {c d : Char} {r : List Char} (hc : c = '-' ∨ c = '.')
    (h : Text.isNumeralChar d = true) (hne : d ≠ c) : opensWord (c :: d :: r) = true := by
  obtain ⟨hgap, -, -⟩ := numeralChar_plain h
  rcases hc with rfl | rfl
  · simp [opensWord, hgap, hne]
    decide
  · simp [opensWord, hgap, hne]
    decide

theorem ne_of_isDigit {c d : Char} (h : Text.isDigit c = true) (hd : Text.isDigit d = false) :
    c ≠ d := by
  intro heq
  subst heq
  rw [h] at hd
  cases hd

/-! ## §2. Scalars as words. -/

theorem isWord_int (i : Int) : isWord (toString i).toList = true := by
  obtain ⟨ds, hne, hdigits, hspelling⟩ := Text.toString_eq_digits i
  have hchars : ∀ c ∈ ds, Text.isNumeralChar c = true :=
    fun c hc => Text.isNumeralChar_of_isDigit (hdigits c hc)
  cases ds with
  | nil => exact absurd rfl hne
  | cons d ds =>
      have hd := hdigits d List.mem_cons_self
      have hnum := hchars d List.mem_cons_self
      -- the digits may have a hyphen before them, which opens a word too
      rcases hspelling with heq | heq
      · rw [heq]
        exact isWord_numeral
          (opensWord_numeral hnum (ne_of_isDigit hd (by decide)) (ne_of_isDigit hd (by decide)))
          hchars
      · rw [heq]
        exact isWord_numeral (opensWord_mark (.inl rfl) hnum (ne_of_isDigit hd (by decide)))
          (List.forall_mem_cons.2 ⟨by decide, hchars⟩)

theorem opensWord_magnitude {cs : List Char} (h : Text.isMagnitude cs = true) :
    opensWord cs = true := by
  obtain ⟨c, r, rfl, -, hminus, hpoint⟩ := Text.isMagnitude_head h
  -- only a point needs a look at the character after it
  by_cases hc : c = '.'
  · obtain ⟨d, r', rfl, hd⟩ := hpoint hc
    subst hc
    exact opensWord_mark (.inr rfl) (Text.isNumeralChar_of_isDigit hd)
      (ne_of_isDigit hd (by decide))
  · exact opensWord_numeral (Text.isMagnitude_chars h c List.mem_cons_self) hminus hc

theorem isWord_real {s : String} (h : isReal s = true) : isWord s.toList = true := by
  have hwords : ∀ w ∈ floatWords, isWord w.toList = true := by decide
  unfold isReal at h
  rw [Bool.or_eq_true, List.contains_iff_mem] at h
  rcases h with h | h
  · exact hwords s h
  · refine isWord_numeral ?_ (Text.isFloat_chars h)
    rcases Text.isFloat_iff.1 h with hm | ⟨r, heq | heq, hm⟩
    · exact opensWord_magnitude hm
    · rw [heq]
      exact opensWord_numeral (by decide) (by decide) (by decide)
    · obtain ⟨c, r', rfl, -, hminus, -⟩ := Text.isMagnitude_head hm
      rw [heq]
      exact opensWord_mark (.inl rfl) (Text.isMagnitude_chars hm c List.mem_cons_self) hminus

theorem isWord_boolText (b : Bool) : isWord (Value.boolText b).toList = true := by
  cases b <;> decide

theorem not_endsWordEarly {c : Char} (h : isReserved c = false) : endsWordEarly c = false := by
  have hall : ∀ d ∈ [':', '#', '\t', '\n', '\r', '\x00'], isReserved d = true :=
    List.all_eq_true.1 (by decide)
  cases hc : endsWordEarly c with
  | false => rfl
  | true =>
      rw [hall c (by simpa [endsWordEarly] using hc)] at h
      cases h

theorem opensWord_unreserved {c : Char} {r : List Char} (hspace : c ≠ ' ')
    (hleading : isLeadingIndicator c = false) (hreserved : isReserved c = false) :
    opensWord (c :: r) = true := by
  have hgaps : ∀ d ∈ ['\t', '\n', '\r'], isReserved d = true := List.all_eq_true.1 (by decide)
  have hindicators : ∀ d ∈ indicators, (isReserved d || isLeadingIndicator d) = true :=
    List.all_eq_true.1 (by decide)
  have hmarks : ∀ d ∈ ['-', '.'], isLeadingIndicator d = true := List.all_eq_true.1 (by decide)
  have hne : ∀ d ∈ ['\t', '\n', '\r'], c ≠ d := by
    intro d hd heq
    subst heq
    rw [hgaps c hd] at hreserved
    cases hreserved
  -- no gap, no indicator, and neither hyphen nor point
  refine opensWord_of_ne ?_ ?_ ?_
  · simp [isGap, isBlank, isBreak, hspace, hne '\t' (by decide), hne '\n' (by decide),
      hne '\r' (by decide)]
  · rw [Bool.eq_false_iff, ne_eq, List.contains_iff_mem]
    intro hc
    rcases Bool.or_eq_true_iff.1 (hindicators c hc) with h | h
    · rw [h] at hreserved
      cases hreserved
    · rw [h] at hleading
      cases hleading
  · rw [Bool.eq_false_iff, ne_eq, List.contains_iff_mem]
    intro hc
    rw [hmarks c hc] at hleading
    cases hleading

/-- A text that is written without quotes is a word. -/
theorem isWord_unquoted {s : String} (h : needsQuotes s = false) : isWord s.toList = true := by
  simp only [needsQuotes, Bool.or_eq_false_iff, decide_eq_false_iff_not] at h
  obtain ⟨⟨⟨⟨⟨⟨⟨⟨hempty, hfirst⟩, hlast⟩, hleading⟩, hreserved⟩, -⟩, -⟩, -⟩, -⟩ := h
  have hplain : ∀ c ∈ s.toList, isReserved c = false := by
    simpa using hreserved
  have hall : s.toList.all (fun c => !endsWordEarly c) = true := by
    rw [List.all_eq_true]
    intro c hc
    rw [not_endsWordEarly (hplain c hc)]
    rfl
  have hopens : opensWord s.toList = true := by
    cases hcs : s.toList with
    | nil =>
        rw [hcs] at hempty
        cases hempty
    | cons c r =>
        rw [hcs] at hfirst hleading hplain
        exact opensWord_unreserved (fun hc => hfirst (by rw [hc]; rfl)) hleading
          (hplain c List.mem_cons_self)
  simp [isWord, hopens, hall, hlast]

/-! ## §3. What an unquoted text means. -/

/-- Whether digits have a sign. -/
def isSigned : List Char → Bool
  | '+' :: _ | '-' :: _ => true
  | _ => false

/-- The texts that need no quotes but spell a whole number: octal digits after
`0o`, and signed digits after a plus sign. -/
def readsAsInt (s : String) : Bool :=
  match s.toList with
  | '0' :: 'o' :: digits => (Text.readInt64? 8 digits).isSome
  | '+' :: digits => isSigned digits && (Text.readInt64? 10 digits).isSome
  | _ => false

/-- The texts that need no quotes but spell infinity. -/
def readsAsReal (s : String) : Bool :=
  ["+.inf", "+.Inf", "+.INF"].contains s

theorem signed?_plus {ds : List Char} (h : isSigned ds = false) :
    Text.signed? 10 ('+' :: ds) = Text.signed? 10 ds := by
  show (Text.digits? 10 ds).map Int.ofNat = _
  unfold Text.signed?
  split
  · cases h
  · cases h
  · rfl

theorem markedInt?_unquoted {s : String} (h : needsQuotes s = false) :
    (markedInt? s.toList).isSome = readsAsInt s := by
  simp only [needsQuotes, Bool.or_eq_false_iff, decide_eq_false_iff_not] at h
  obtain ⟨⟨⟨-, hhex⟩, hint⟩, -⟩ := h
  unfold readsAsInt markedInt?
  generalize s.toList = cs at hhex hint
  split
  · -- such a text begins with `0x` and is quoted
    simp at hhex
  · rfl
  · rename_i digits
    show (Text.readInt64? 10 digits).isSome
        = (isSigned digits && (Text.readInt64? 10 digits).isSome)
    cases hsigned : isSigned digits with
    | true => rfl
    | false =>
        -- with one sign the number is a decimal one, and the text is quoted
        have hsame : Text.readInt64? 10 ('+' :: digits) = Text.readInt64? 10 digits := by
          unfold Text.readInt64?
          rw [signed?_plus hsigned]
        rw [hsame] at hint
        exact hint
  · rename_i hnohex hnooctal hnoplus
    split
    · exact absurd rfl (hnooctal _)
    · exact absurd rfl (hnoplus _)
    · rfl

theorem readsAsReal_of_isReal {s : String} (h : needsQuotes s = false) :
    isReal s = readsAsReal s := by
  have hfloat : Text.isFloat s.toList = false := by
    simp only [needsQuotes, Bool.or_eq_false_iff] at h
    exact h.2
  have hquoted : ∀ w ∈ floatWords, readsAsReal w = true ∨ needsQuotes w = true := by decide
  have hwords : ∀ w ∈ ["+.inf", "+.Inf", "+.INF"], isReal w = true := by decide
  -- every other word for infinity or not-a-number is quoted
  cases hr : readsAsReal s with
  | true => exact hwords s (by simpa [readsAsReal] using hr)
  | false =>
      rw [isReal, hfloat, Bool.or_false, Bool.eq_false_iff, ne_eq, List.contains_iff_mem]
      intro hs
      rcases hquoted s hs with hw | hw
      · rw [hr] at hw
        cases hw
      · rw [h] at hw
        cases hw

/-- **What an unquoted text means.** -/
theorem ofPlain_unquoted {s : String} (h : needsQuotes s = false) :
    (readsAsInt s = true ∧ ∃ n, Value.ofPlain s = .int n)
      ∨ (readsAsInt s = false ∧ readsAsReal s = true ∧ Value.ofPlain s = .real s)
      ∨ (readsAsInt s = false ∧ readsAsReal s = false ∧ Value.ofPlain s = .str s) := by
  have hmarked := markedInt?_unquoted h
  have hreal := readsAsReal_of_isReal h
  have hword : ∀ w ∈ reservedWords, s ≠ w := by
    intro w hw heq
    subst heq
    simp only [needsQuotes, Bool.or_eq_false_iff] at h
    rw [List.contains_iff_mem.2 hw] at h
    exact absurd h.1.1.1.2 (by decide)
  have hint : Text.readInt64? 10 s.toList = none := by
    simp only [needsQuotes, Bool.or_eq_false_iff] at h
    simpa using h.1.2
  unfold Value.ofPlain
  cases hm : markedInt? s.toList with
  | some n =>
      rw [hm] at hmarked
      exact .inl ⟨hmarked.symm, n, rfl⟩
  | none =>
      rw [hm] at hmarked
      -- null, truth values and decimal numbers are quoted, so they are not met here
      have hnull : isNull s = false := by
        simp [isNull, hword "~" (by decide), hword "null" (by decide)]
      have hbool : bool? s = none := by
        simp [bool?, hword "true" (by decide), hword "false" (by decide)]
      simp only [hnull, hbool, hint, hreal, Bool.false_eq_true, if_false]
      cases hr : readsAsReal s with
      | true => exact .inr (.inl ⟨hmarked.symm, rfl, rfl⟩)
      | false => exact .inr (.inr ⟨hmarked.symm, rfl, rfl⟩)

theorem numeralChar_unreserved {c : Char} (h : Text.isNumeralChar c = true) :
    isReserved c = false ∧ c ≠ ' ' := by
  have hplain := numeralChar_of_all (p := fun c => !isReserved c && c ≠ ' ') (by decide) h
  simpa only [Bool.and_eq_true, Bool.not_eq_true', decide_eq_true_eq] using hplain

/-- Such a spelling begins with `0o`, or with a plus and a second sign. -/
theorem readsAsInt_shape {s : String} (h : readsAsInt s = true) :
    ∃ c d r, s.toList = c :: d :: r ∧ (c = '0' ∧ d = 'o' ∨ c = '+' ∧ (d = '+' ∨ d = '-'))
      ∧ ∀ x ∈ s.toList, Text.isNumeralChar x = true := by
  have hchars : ∀ {radix : Nat} {ds : List Char}, (Text.readInt64? radix ds).isSome = true →
      ∀ x ∈ ds, Text.isNumeralChar x = true := by
    intro radix ds hds
    obtain ⟨es, hspelling, -, hes⟩ := Text.readInt64?_chars hds
    have hnum : ∀ x ∈ es, Text.isNumeralChar x = true :=
      fun x hx => Text.isNumeralChar_of_digitValue? (hes x hx)
    rcases hspelling with rfl | rfl | rfl
    · exact hnum
    · exact List.forall_mem_cons.2 ⟨by decide, hnum⟩
    · exact List.forall_mem_cons.2 ⟨by decide, hnum⟩
  unfold readsAsInt at h
  split at h
  · rename_i ds hs
    rw [hs]
    exact ⟨'0', 'o', ds, rfl, .inl ⟨rfl, rfl⟩,
      List.forall_mem_cons.2 ⟨by decide, List.forall_mem_cons.2 ⟨by decide, hchars h⟩⟩⟩
  · rename_i ds hs
    rw [Bool.and_eq_true] at h
    obtain ⟨hsigned, hint⟩ := h
    have hnum := hchars hint
    rw [hs]
    unfold isSigned at hsigned
    split at hsigned
    · exact ⟨'+', '+', _, rfl, .inr ⟨rfl, .inl rfl⟩,
        List.forall_mem_cons.2 ⟨by decide, hnum⟩⟩
    · exact ⟨'+', '-', _, rfl, .inr ⟨rfl, .inr rfl⟩,
        List.forall_mem_cons.2 ⟨by decide, hnum⟩⟩
    · cases hsigned
  · cases h

/-- A text that spells a whole number in one of those ways is not quoted. -/
theorem needsQuotes_of_readsAsInt {s : String} (h : readsAsInt s = true) :
    needsQuotes s = false := by
  obtain ⟨c, d, r, hs, hmark, hnum⟩ := readsAsInt_shape h
  have hplain : s.toList.any isReserved = false := by
    rw [List.any_eq_false]
    intro x hx
    rw [(numeralChar_unreserved (hnum x hx)).1]
    decide
  have hlast : s.toList.getLast? ≠ some ' ' :=
    fun heq => (numeralChar_unreserved (hnum ' ' (List.mem_of_getLast? heq))).2 rfl
  -- none of the reserved words begins with a zero or a plus
  have hwords : ∀ w ∈ reservedWords,
      w.toList.head? ≠ some '0' ∧ w.toList.head? ≠ some '+' := by
    decide
  have hunreserved : reservedWords.contains s = false := by
    rw [Bool.eq_false_iff, ne_eq, List.contains_iff_mem]
    intro hmem
    obtain ⟨hzero, hplus⟩ := hwords s hmem
    rw [hs] at hzero hplus
    rcases hmark with ⟨rfl, -⟩ | ⟨rfl, -⟩
    · exact hzero rfl
    · exact hplus rfl
  -- what is left of the test looks at the first two characters only
  unfold needsQuotes
  simp only [hplain, hlast, hunreserved, Bool.or_false, decide_false]
  rw [hs]
  rcases hmark with ⟨rfl, rfl⟩ | ⟨rfl, rfl | rfl⟩
  · rfl
  · rfl
  · rfl

theorem needsQuotes_of_readsAsReal {s : String} (h : readsAsReal s = true) :
    needsQuotes s = false := by
  have hall : ∀ w ∈ ["+.inf", "+.Inf", "+.INF"], needsQuotes w = false := by decide
  exact hall s (by simpa [readsAsReal] using h)

/-! ## §4. What a number means. -/

theorem ofPlain_int (n : Int64) : Value.ofPlain (toString n.toInt) = .int n := by
  have hnot : ∀ c, Text.isDigit c = false → c ≠ '-' → c ∉ (toString n.toInt).toList :=
    fun c => Text.not_mem_toString
  have hne : ∀ w : String, w.toList.any (fun c => !Text.isDigit c && c ≠ '-') = true →
      toString n.toInt ≠ w := by
    intro w hw heq
    obtain ⟨c, hc, hkind⟩ := List.any_eq_true.1 hw
    simp only [Bool.and_eq_true, Bool.not_eq_true', decide_eq_true_eq] at hkind
    exact hnot c hkind.1 hkind.2 (heq ▸ hc)
  -- the spelling has no `x`, no `o` and no plus, so no radix is marked
  have hmarked : markedInt? (toString n.toInt).toList = none := by
    unfold markedInt?
    split
    · rename_i heq
      exact absurd (heq ▸ List.mem_cons_of_mem _ List.mem_cons_self)
        (hnot 'x' (by decide) (by decide))
    · rename_i heq
      exact absurd (heq ▸ List.mem_cons_of_mem _ List.mem_cons_self)
        (hnot 'o' (by decide) (by decide))
    · rename_i heq
      exact absurd (heq ▸ List.mem_cons_self) (hnot '+' (by decide) (by decide))
    · rfl
  have hnull : isNull (toString n.toInt) = false := by
    simp only [isNull, hne "~" (by decide), hne "null" (by decide), decide_false, Bool.or_self]
  have hbool : bool? (toString n.toInt) = none := by
    simp only [bool?, hne "true" (by decide), hne "false" (by decide), if_false]
  unfold Value.ofPlain
  simp only [hmarked, hnull, hbool, Text.readInt64?_toString, Bool.false_eq_true, if_false]

/-- A floating-point number with a plus sign has no second one. -/
theorem isSigned_of_isReal {s : String} {ds : List Char} (h : isReal s = true)
    (hs : s.toList = '+' :: ds) : isSigned ds = false := by
  have hwords : ∀ w ∈ floatWords, isSigned (w.toList.drop 1) = false := by decide
  rw [isReal, Bool.or_eq_true, List.contains_iff_mem] at h
  rcases h with h | h
  · have := hwords s h
    rw [hs] at this
    exact this
  · rw [hs] at h
    rcases Text.isFloat_iff.1 h with hm | ⟨r, heq | heq, hm⟩
    · obtain ⟨c, r, heq, hplus, -⟩ := Text.isMagnitude_head hm
      cases heq
      exact absurd rfl hplus
    · cases heq
      obtain ⟨c, r, rfl, hplus, hminus, -⟩ := Text.isMagnitude_head hm
      unfold isSigned
      split
      · rename_i heq
        cases heq
        exact absurd rfl hplus
      · rename_i heq
        cases heq
        exact absurd rfl hminus
      · rfl
    · cases heq

theorem markedInt?_real {s : String} (h : isReal s = true) :
    markedInt? s.toList = none ∨ markedInt? s.toList = Text.readInt64? 10 s.toList := by
  -- no floating-point number has a mark of a radix
  have hmark : ∀ c r, (c = 'x' ∨ c = 'o') → s.toList ≠ '0' :: c :: r := by
    intro c r hc hs
    have hwords : ∀ w ∈ floatWords, w.toList.head? ≠ some '0' := by decide
    rw [isReal, Bool.or_eq_true, List.contains_iff_mem] at h
    rcases h with h | h
    · exact hwords s h (by rw [hs]; rfl)
    · rw [hs] at h
      rcases hc with rfl | rfl <;> cases h
  unfold markedInt?
  split
  · rename_i heq
    exact absurd heq (hmark 'x' _ (.inl rfl))
  · rename_i heq
    exact absurd heq (hmark 'o' _ (.inr rfl))
  · rename_i heq
    right
    rw [heq]
    unfold Text.readInt64?
    rw [signed?_plus (isSigned_of_isReal h heq)]
  · exact .inl rfl

/-- **A floating-point number is read as one, unless it spells a whole
number.** -/
theorem ofPlain_real {s : String} (h : isReal s = true) :
    Value.ofPlain s = .real s ↔ Text.readInt64? 10 s.toList = none := by
  have hne : ∀ w : String, isReal w = false → s ≠ w := by
    intro w hw heq
    subst heq
    rw [h] at hw
    cases hw
  have hnull : isNull s = false := by
    simp [isNull, hne "~" (by decide), hne "null" (by decide)]
  have hbool : bool? s = none := by
    simp [bool?, hne "true" (by decide), hne "false" (by decide)]
  unfold Value.ofPlain
  simp only [hnull, hbool, h, Bool.false_eq_true, if_false, if_true]
  cases hint : Text.readInt64? 10 s.toList with
  | none =>
      have hmarked : markedInt? s.toList = none := by
        rcases markedInt?_real h with hm | hm
        · exact hm
        · rw [hm, hint]
      simp [hmarked]
  -- it spells a whole number, and is read as that or as another one
  | some n =>
      cases hmarked : markedInt? s.toList with
      | none => simp
      | some m => simp

end ClusterBoot.Yaml
