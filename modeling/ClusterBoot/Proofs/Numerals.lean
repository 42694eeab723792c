/-
  ClusterBoot.Proofs.Numerals
  ────────────────────────────────
  **THE DECIMAL SPELLING OF A NUMBER IS READ AS THAT NUMBER.**

  A 64-bit number is written in decimal digits, after a hyphen if it is
  negative, and `readInt64?` gives it back (`readInt64?_toString`).  The rest
  is about the characters of spellings: digits and a hyphen for whole
  numbers, digits, letters, signs and points for floating-point numbers.
-/
import ClusterBoot.Text.Numeral

namespace ClusterBoot.Text

/-! ## §1. Whole numbers. -/

theorem isDigit_iff {c : Char} : isDigit c = true ↔ c.isDigit = true := by
  simp only [isDigit, Char.isDigit, Bool.and_eq_true, decide_eq_true_eq, Char.toNat,
    UInt32.le_iff_toNat_le]
  exact Iff.rfl

theorem digitValue?_digit {c : Char} (h : isDigit c = true) :
    digitValue? 10 c = some (c.toNat - 48) := by
  have hc : 48 ≤ c.toNat ∧ c.toNat ≤ 57 := by simpa [isDigit] using h
  unfold digitValue?
  simp only [hc.1, hc.2, decide_true, Bool.and_self, if_true]
  rw [if_pos (by omega)]

theorem digitsFrom?_digits {cs : List Char} (h : ∀ c ∈ cs, isDigit c = true) :
    ∀ acc, digitsFrom? 10 acc cs = some (Nat.ofDigitChars 10 cs acc) := by
  induction cs with
  | nil => intro acc; rfl
  | cons c cs ih =>
      intro acc
      unfold digitsFrom?
      rw [digitValue?_digit (h c List.mem_cons_self), Nat.ofDigitChars_cons]
      show digitsFrom? 10 (acc * 10 + (c.toNat - 48)) cs = _
      rw [ih (fun d hd => h d (List.mem_cons_of_mem c hd)), Nat.mul_comm 10 acc]
      rfl

theorem isDigit_of_digitValue? {c : Char} {v : Nat} (h : digitValue? 10 c = some v) :
    isDigit c = true := by
  unfold digitValue? at h
  simp only [Bool.and_eq_true, decide_eq_true_eq, Option.ite_none_right_eq_some] at h
  obtain ⟨hv, -⟩ := h
  simp only [isDigit, Bool.and_eq_true, decide_eq_true_eq]
  split at hv
  · assumption
  · split at hv
    · omega
    · split at hv <;> omega

theorem isDigit_of_digitsFrom? {cs : List Char} {n : Nat} :
    ∀ {acc}, digitsFrom? 10 acc cs = some n → ∀ c ∈ cs, isDigit c = true := by
  induction cs with
  | nil => intro acc _ c hc; cases hc
  | cons c cs ih =>
      intro acc h
      unfold digitsFrom? at h
      split at h
      next v hv => exact List.forall_mem_cons.2 ⟨isDigit_of_digitValue? hv, ih h⟩
      next => cases h

theorem isDigit_of_mem_toDigits {n : Nat} : ∀ c ∈ Nat.toDigits 10 n, isDigit c = true :=
  fun _ hc => isDigit_iff.2 (Nat.isDigit_of_mem_toDigits (by decide) (by decide) hc)

theorem digits?_toDigits (n : Nat) : digits? 10 (Nat.toDigits 10 n) = some n := by
  unfold digits?
  split
  · rename_i h
    exact absurd h Nat.toDigits_ne_nil
  · rw [digitsFrom?_digits isDigit_of_mem_toDigits, Nat.ofDigitChars_ten_toDigits]

/-- Decimal digits spell a number, and nothing else does. -/
theorem digits?_eq_some_iff {cs : List Char} {n : Nat} :
    digits? 10 cs = some n
      ↔ cs ≠ [] ∧ (∀ c ∈ cs, c.isDigit = true) ∧ Nat.ofDigitChars 10 cs 0 = n := by
  cases cs with
  | nil => simp [digits?]
  | cons c cs =>
      show digitsFrom? 10 0 (c :: cs) = some n ↔ _
      constructor
      · intro h
        have hdigits : ∀ d ∈ c :: cs, isDigit d = true := isDigit_of_digitsFrom? h
        rw [digitsFrom?_digits hdigits, Option.some.injEq] at h
        exact ⟨List.cons_ne_nil _ _, fun d hd => isDigit_iff.1 (hdigits d hd), h⟩
      · rintro ⟨-, hdigits, hn⟩
        rw [digitsFrom?_digits fun d hd => isDigit_iff.2 (hdigits d hd), hn]

/-- **A bounded number is read from its digits, with or without a plus sign.** -/
theorem readNat?_eq_some_iff {bound : Nat} {cs : List Char} {n : Nat} :
    readNat? bound cs = some n
      ↔ ∃ ds, (cs = ds ∨ cs = '+' :: ds) ∧ digits? 10 ds = some n ∧ n < bound := by
  have hbound : ∀ ds, ((digits? 10 ds).bind fun m => if m < bound then some m else none) = some n
      ↔ digits? 10 ds = some n ∧ n < bound := by
    intro ds
    rw [Option.bind_eq_some_iff]
    constructor
    · rintro ⟨m, hm, h⟩
      split at h
      next hlt =>
        cases h
        exact ⟨hm, hlt⟩
      next => cases h
    · rintro ⟨hm, hlt⟩
      exact ⟨n, hm, if_pos hlt⟩
  unfold readNat?
  rw [hbound]
  split
  next r =>
    constructor
    · intro h
      exact ⟨r, .inr rfl, h⟩
    · rintro ⟨ds, rfl | heq, h⟩
      -- a plus sign is no digit
      · obtain ⟨-, hdigits, -⟩ := digits?_eq_some_iff.1 h.1
        exact absurd (hdigits '+' List.mem_cons_self) (by decide)
      · cases heq
        exact h
  next hne =>
    constructor
    · intro h
      exact ⟨cs, .inl rfl, h⟩
    · rintro ⟨ds, rfl | rfl, h⟩
      · exact h
      · exact absurd rfl (hne ds)

/-- The decimal spelling of a number. -/
theorem toList_toString (i : Int) :
    (toString i).toList
      = if 0 ≤ i then Nat.toDigits 10 i.toNat else '-' :: Nat.toDigits 10 (-i).toNat := by
  rw [Int.toString_eq_repr, Int.repr_eq_if]
  split
  · rw [Nat.toList_repr]
  · rw [String.toList_append, Nat.toList_repr]
    rfl

theorem signed?_digits {c : Char} {cs : List Char} (h : isDigit c = true) (radix : Nat) :
    signed? radix (c :: cs) = (digits? radix (c :: cs)).map Int.ofNat := by
  unfold signed?
  split
  · rename_i heq
    cases heq
    exact absurd h (by decide)
  · rename_i heq
    cases heq
    exact absurd h (by decide)
  · rfl

theorem signed?_toString (i : Int) : signed? 10 (toString i).toList = some i := by
  rw [toList_toString]
  split
  · rename_i hi
    cases hcs : Nat.toDigits 10 i.toNat with
    | nil => exact absurd hcs Nat.toDigits_ne_nil
    | cons c cs =>
        have hc : isDigit c = true :=
          isDigit_of_mem_toDigits (n := i.toNat) c (hcs ▸ List.mem_cons_self)
        rw [signed?_digits hc, ← hcs, digits?_toDigits]
        simp only [Option.map_some, Option.some.injEq]
        exact Int.toNat_of_nonneg hi
  · rename_i hi
    show (digits? 10 (Nat.toDigits 10 (-i).toNat)).map (fun n => -Int.ofNat n) = some i
    rw [digits?_toDigits]
    simp only [Option.map_some, Option.some.injEq, Int.ofNat_eq_natCast]
    omega

/-- **A 64-bit number in decimal is read as that number.** -/
theorem readInt64?_toString (n : Int64) : readInt64? 10 (toString n.toInt).toList = some n := by
  have hlow := Int64.le_toInt n
  have hhigh := Int64.toInt_le n
  unfold readInt64?
  rw [signed?_toString, Option.bind_some]
  unfold toInt64?
  rw [if_pos ⟨hlow, hhigh⟩, Int64.ofInt_toInt]

/-- The decimal spelling is digits, possibly after a hyphen. -/
theorem toString_eq_digits (i : Int) :
    ∃ ds : List Char, ds ≠ [] ∧ (∀ c ∈ ds, isDigit c = true)
      ∧ ((toString i).toList = ds ∨ (toString i).toList = '-' :: ds) := by
  rw [toList_toString]
  split
  · exact ⟨_, Nat.toDigits_ne_nil, isDigit_of_mem_toDigits, .inl rfl⟩
  · exact ⟨_, Nat.toDigits_ne_nil, isDigit_of_mem_toDigits, .inr rfl⟩

theorem not_mem_toString {i : Int} {c : Char} (hdigit : isDigit c = false) (hminus : c ≠ '-') :
    c ∉ (toString i).toList := by
  obtain ⟨ds, -, hdigits, heq⟩ := toString_eq_digits i
  intro hc
  have hmem : c ∈ ds := by
    rcases heq with heq | heq
    · rwa [heq] at hc
    · rw [heq] at hc
      rcases List.mem_cons.1 hc with h | h
      · exact absurd h hminus
      · exact h
  rw [hdigits c hmem] at hdigit
  cases hdigit

/-! ## §2. The characters of numbers. -/

/-- A letter, a digit, a sign or a point. -/
def isNumeralChar (c : Char) : Bool :=
  isDigit c || (65 ≤ c.toNat && c.toNat ≤ 90) || (97 ≤ c.toNat && c.toNat ≤ 122)
    || ['+', '-', '.'].contains c

theorem isNumeralChar_of_isDigit {c : Char} (h : isDigit c = true) : isNumeralChar c = true := by
  simp [isNumeralChar, h]

theorem isNumeralChar_of_digitValue? {radix : Nat} {c : Char}
    (h : (digitValue? radix c).isSome = true) : isNumeralChar c = true := by
  simp only [isNumeralChar, isDigit, Bool.or_eq_true, Bool.and_eq_true, decide_eq_true_eq]
  by_cases hdigit : 48 ≤ c.toNat ∧ c.toNat ≤ 57
  · exact .inl (.inl (.inl hdigit))
  by_cases hcapital : 65 ≤ c.toNat ∧ c.toNat ≤ 70
  · exact .inl (.inl (.inr (by omega)))
  by_cases hsmall : 97 ≤ c.toNat ∧ c.toNat ≤ 102
  · exact .inl (.inr (by omega))
  simp [digitValue?, hdigit, hcapital, hsmall] at h

theorem digitsFrom?_chars {radix : Nat} {cs : List Char} :
    ∀ {acc : Nat}, (digitsFrom? radix acc cs).isSome = true →
      ∀ c ∈ cs, (digitValue? radix c).isSome = true := by
  induction cs with
  | nil => intro acc _ c hc; cases hc
  | cons d ds ih =>
      intro acc h
      unfold digitsFrom? at h
      split at h
      · rename_i v hv
        exact List.forall_mem_cons.2 ⟨by rw [hv]; rfl, ih h⟩
      · cases h

theorem digits?_chars {radix : Nat} {cs : List Char} (h : (digits? radix cs).isSome = true) :
    cs ≠ [] ∧ ∀ c ∈ cs, (digitValue? radix c).isSome = true := by
  unfold digits? at h
  split at h
  · cases h
  · rename_i hne
    exact ⟨fun heq => hne heq, digitsFrom?_chars h⟩

/-- What is read as a whole number consists of digits after at most one
sign. -/
theorem readInt64?_chars {radix : Nat} {cs : List Char}
    (h : (readInt64? radix cs).isSome = true) :
    ∃ ds, (cs = ds ∨ cs = '+' :: ds ∨ cs = '-' :: ds)
      ∧ ds ≠ [] ∧ ∀ c ∈ ds, (digitValue? radix c).isSome = true := by
  have hsigned : (signed? radix cs).isSome = true := by
    unfold readInt64? at h
    cases hs : signed? radix cs with
    | none =>
        rw [hs] at h
        cases h
    | some i => rfl
  unfold signed? at hsigned
  split at hsigned
  · rename_i ds
    exact ⟨ds, .inr (.inl rfl), digits?_chars (by simpa using hsigned)⟩
  · rename_i ds
    exact ⟨ds, .inr (.inr rfl), digits?_chars (by simpa using hsigned)⟩
  · exact ⟨cs, .inl rfl, digits?_chars (by simpa using hsigned)⟩

/-! ## §3. Floating-point numbers. -/

/-- A letter in lower case came from a letter. -/
theorem isNumeralChar_of_asciiLower {c d : Char} (h : asciiLower c = d)
    (hd : 97 ≤ d.toNat ∧ d.toNat ≤ 122) : isNumeralChar c = true := by
  unfold asciiLower at h
  split at h
  · rename_i hc
    simp only [isNumeralChar, hc, Bool.or_true, Bool.true_or]
  · subst h
    simp [isNumeralChar, hd]

theorem isFloatWord_chars {cs : List Char} (h : isFloatWord cs = true) :
    cs ≠ [] ∧ ∀ c ∈ cs, isNumeralChar c = true ∧ c ≠ '+' ∧ c ≠ '-' ∧ c ≠ '.' := by
  have hwords : cs.map asciiLower = ['i', 'n', 'f']
      ∨ cs.map asciiLower = ['i', 'n', 'f', 'i', 'n', 'i', 't', 'y']
      ∨ cs.map asciiLower = ['n', 'a', 'n'] := by
    simpa [isFloatWord, or_assoc] using h
  -- the three words are in lower case, so each character is a letter
  have hlower : ∀ c ∈ cs, 97 ≤ (asciiLower c).toNat ∧ (asciiLower c).toNat ≤ 122 := by
    intro c hc
    have hmem : asciiLower c ∈ cs.map asciiLower := List.mem_map_of_mem hc
    have hall : (cs.map asciiLower).all (fun d => 97 ≤ d.toNat ∧ d.toNat ≤ 122) = true := by
      rcases hwords with hw | hw | hw <;> rw [hw] <;> decide
    simpa using List.all_eq_true.1 hall _ hmem
  constructor
  · intro heq
    subst heq
    revert h
    decide
  · intro c hc
    refine ⟨isNumeralChar_of_asciiLower rfl (hlower c hc), ?_, ?_, ?_⟩ <;>
      · intro heq
        subst heq
        exact absurd (hlower _ hc) (by decide)

theorem isExponent_chars {cs : List Char} (h : isExponent cs = true) :
    ∀ c ∈ cs, isNumeralChar c = true := by
  cases cs with
  | nil => intro c hc; cases hc
  | cons e r =>
      unfold isExponent at h
      simp only [Bool.and_eq_true, Bool.or_eq_true, beq_iff_eq] at h
      obtain ⟨he, -, hdigits⟩ := h
      intro c hc
      rcases List.mem_cons.1 hc with rfl | hc
      · rcases he with rfl | rfl <;> decide
      · -- the sign, if there is one, and the digits after it
        split at hdigits
        · rcases List.mem_cons.1 hc with rfl | hc
          · decide
          · exact isNumeralChar_of_isDigit (List.all_eq_true.1 hdigits c hc)
        · rcases List.mem_cons.1 hc with rfl | hc
          · decide
          · exact isNumeralChar_of_isDigit (List.all_eq_true.1 hdigits c hc)
        · exact isNumeralChar_of_isDigit (List.all_eq_true.1 hdigits c hc)

theorem isDecimal_chars {cs : List Char} (h : isDecimal cs = true) :
    ∀ c ∈ cs, isNumeralChar c = true := by
  -- digits, then a fraction or not, then an exponent or not
  have hwhole : ∀ c ∈ cs.takeWhile isDigit, isNumeralChar c = true :=
    fun c hc => isNumeralChar_of_isDigit (List.all_eq_true.1 List.all_takeWhile c hc)
  have hrest : ∀ c ∈ cs.dropWhile isDigit, isNumeralChar c = true := by
    unfold isDecimal at h
    simp only at h
    split at h
    · rename_i r hr
      simp only [Bool.and_eq_true] at h
      rw [hr]
      intro c hc
      rcases List.mem_cons.1 hc with rfl | hc
      · decide
      · rw [← List.takeWhile_append_dropWhile (p := isDigit) (l := r)] at hc
        rcases List.mem_append.1 hc with hc | hc
        · exact isNumeralChar_of_isDigit (List.all_eq_true.1 List.all_takeWhile c hc)
        · exact isExponent_chars h.2 c hc
    · simp only [Bool.and_eq_true] at h
      exact isExponent_chars h.2
  intro c hc
  rw [← List.takeWhile_append_dropWhile (p := isDigit) (l := cs)] at hc
  rcases List.mem_append.1 hc with hc | hc
  · exact hwhole c hc
  · exact hrest c hc

/-- A decimal spelling begins with a digit, or with a point before a digit. -/
theorem isDecimal_head {cs : List Char} (h : isDecimal cs = true) :
    ∃ c r, cs = c :: r ∧ (isDigit c = true ∨ c = '.' ∧ ∃ d r', r = d :: r' ∧ isDigit d = true) := by
  cases cs with
  | nil => exact absurd h (by decide)
  | cons c r =>
      refine ⟨c, r, rfl, ?_⟩
      by_cases hc : isDigit c = true
      · exact .inl hc
      -- with no digit before it, the point must have one after it
      · unfold isDecimal at h
        simp only [List.takeWhile_cons, List.dropWhile_cons, hc] at h
        split at h
        · rename_i r' hr
          simp only [Bool.false_eq_true, if_false, List.cons.injEq] at hr
          obtain ⟨rfl, rfl⟩ := hr
          refine .inr ⟨rfl, ?_⟩
          simp only [Bool.false_eq_true, if_false, List.isEmpty_nil, Bool.not_true,
            Bool.false_or, Bool.and_eq_true] at h
          cases r with
          | nil => exact absurd h.1 (by decide)
          | cons d r' =>
              refine ⟨d, r', rfl, ?_⟩
              by_cases hd : isDigit d = true
              · exact hd
              · simp [hd] at h
        · simp at h

/-- What stands after the sign of a floating-point number. -/
def isMagnitude (cs : List Char) : Bool :=
  isFloatWord cs || isDecimal cs

theorem isMagnitude_chars {cs : List Char} (h : isMagnitude cs = true) :
    ∀ c ∈ cs, isNumeralChar c = true := by
  rcases Bool.or_eq_true _ _ ▸ h with h | h
  · exact fun c hc => ((isFloatWord_chars h).2 c hc).1
  · exact isDecimal_chars h

/-- A magnitude begins with no sign, and with a point only before a digit. -/
theorem isMagnitude_head {cs : List Char} (h : isMagnitude cs = true) :
    ∃ c r, cs = c :: r ∧ c ≠ '+' ∧ c ≠ '-' ∧ (c = '.' → ∃ d r', r = d :: r' ∧ isDigit d = true) := by
  rcases Bool.or_eq_true _ _ ▸ h with h | h
  · obtain ⟨hne, hall⟩ := isFloatWord_chars h
    cases cs with
    | nil => exact absurd rfl hne
    | cons c r =>
        obtain ⟨-, hplus, hminus, hpoint⟩ := hall c List.mem_cons_self
        exact ⟨c, r, rfl, hplus, hminus, fun hc => absurd hc hpoint⟩
  · obtain ⟨c, r, rfl, hc | ⟨rfl, hdigit⟩⟩ := isDecimal_head h
    · refine ⟨c, r, rfl, ?_, ?_, ?_⟩ <;> rintro rfl <;> exact absurd hc (by decide)
    · exact ⟨'.', r, rfl, by decide, by decide, fun _ => hdigit⟩

/-- A floating-point number is a magnitude, possibly after a sign. -/
theorem isFloat_iff {cs : List Char} :
    isFloat cs = true
      ↔ isMagnitude cs = true
        ∨ ∃ r, (cs = '+' :: r ∨ cs = '-' :: r) ∧ isMagnitude r = true := by
  constructor
  · intro h
    unfold isFloat at h
    simp only at h
    split at h
    · exact .inr ⟨_, .inl rfl, h⟩
    · exact .inr ⟨_, .inr rfl, h⟩
    · exact .inl h
  · intro h
    rcases h with h | ⟨r, rfl | rfl, h⟩
    · obtain ⟨c, r, rfl, hplus, hminus, -⟩ := isMagnitude_head h
      unfold isFloat
      split
      · rename_i heq
        cases heq
        exact absurd rfl hplus
      · rename_i heq
        cases heq
        exact absurd rfl hminus
      · exact h
    · exact h
    · exact h

theorem isFloat_chars {cs : List Char} (h : isFloat cs = true) :
    ∀ c ∈ cs, isNumeralChar c = true := by
  rcases isFloat_iff.1 h with h | ⟨r, rfl | rfl, h⟩
  · exact isMagnitude_chars h
  · exact List.forall_mem_cons.2 ⟨by decide, isMagnitude_chars h⟩
  · exact List.forall_mem_cons.2 ⟨by decide, isMagnitude_chars h⟩

end ClusterBoot.Text
