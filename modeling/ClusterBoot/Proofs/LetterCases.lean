/-
  ClusterBoot.Proofs.LetterCases
  ────────────────────────────────
  **A WORD OF ASCII LETTERS, IN ANY LETTER CASE.**

  A text is such a word in small letters exactly if each of its characters is
  the letter of the word or its capital (`toLower_eq_iff`).  Beyond ASCII only
  the Kelvin sign has an ASCII letter as its small letter, so words with a k in
  them are left out; the dotted capital I becomes two characters, of which the
  second is not ASCII.
-/
import ClusterBoot.Text.LetterCase
import Mathlib.Data.List.Forall2

namespace ClusterBoot.Text

/-! ## §1. Single characters. -/

/-- The letters, without k, and the digits. -/
def wordChars : List Char := "abcdefghijlmnopqrstuvwxyz0123456789".toList

theorem wordChars_ascii {d : Char} (h : d ∈ wordChars) : 0 < d.toNat ∧ d.toNat < 128 := by
  have hall : wordChars.all (fun d => 0 < d.toNat ∧ d.toNat < 128) = true := by decide +kernel
  exact of_decide_eq_true (List.all_eq_true.1 hall d h)

/-- A letter and its capital have the letter as their small letter, -/
theorem lowerChar_wordChars {d : Char} (h : d ∈ wordChars) :
    lowerChar d = d ∧ lowerChar d.toUpper = d := by
  have hall : wordChars.all (fun d => lowerChar d = d ∧ lowerChar d.toUpper = d) = true := by
    decide +kernel
  exact of_decide_eq_true (List.all_eq_true.1 hall d h)

/-- and of the ASCII characters no others have. -/
theorem lowerChar_ascii : ∀ n < 128, lowerChar (Char.ofNat n) ∈ wordChars →
    Char.ofNat n = lowerChar (Char.ofNat n)
      ∨ Char.ofNat n = (lowerChar (Char.ofNat n)).toUpper := by
  decide +kernel

/-- Capital letters beyond ASCII have their small letters beyond ASCII too, but
for the Kelvin sign. -/
theorem lowerRuns_beyond : ∀ run ∈ lowerRuns,
    run.2.1 < 128 ∨ (run.1 = 0x212A ∧ run.2.1 = 0x212A) ∨ (128 : Int) ≤ run.1 + run.2.2.2 := by
  decide +kernel

theorem lowerShift_beyond {n : Nat} (hn : 128 ≤ n) (hkelvin : n ≠ 0x212A) :
    (128 : Int) ≤ n + lowerShift n := by
  unfold lowerShift
  split
  next run hfind =>
    obtain ⟨hrun, -, -, -, -⟩ := List.find?_eq_some_iff_append.1 hfind
    simp only [Bool.and_eq_true, decide_eq_true_eq] at hrun
    rcases lowerRuns_beyond run (List.mem_of_find?_eq_some hfind) with h | h | h
    · omega
    · omega
    · omega
  next => omega

/-- A number that is no character gives the null character. -/
theorem toNat_ofNat_cases (n : Nat) : (Char.ofNat n).toNat = n ∨ (Char.ofNat n).toNat = 0 := by
  by_cases hvalid : n.isValidChar
  · exact .inl (by rw [Char.ofNat, dif_pos hvalid]; rfl)
  · exact .inr (by rw [Char.ofNat, dif_neg hvalid]; rfl)

/-- No character beyond ASCII has the letter of a word as its small letter. -/
theorem lowerChar_beyond {c : Char} (hc : 128 ≤ c.toNat) : lowerChar c ∉ wordChars := by
  by_cases hkelvin : c.toNat = 0x212A
  · have hk : lowerChar c = 'k' := by
      rw [← Char.ofNat_toNat c, hkelvin]
      decide +kernel
    rw [hk]
    decide
  · have hbeyond := lowerShift_beyond hc hkelvin
    intro hmem
    obtain ⟨hpos, hlt⟩ := wordChars_ascii hmem
    simp only [lowerChar, if_neg (Nat.not_lt.2 hc)] at hpos hlt
    rcases toNat_ofNat_cases (c.toNat + lowerShift c.toNat).toNat with h | h
    · omega
    · omega

theorem lowerChar_eq_iff {c d : Char} (hd : d ∈ wordChars) :
    lowerChar c = d ↔ c = d ∨ c = d.toUpper := by
  constructor
  · rintro rfl
    by_cases hc : c.toNat < 128
    · have h := lowerChar_ascii c.toNat hc
      rw [Char.ofNat_toNat] at h
      exact h hd
    · exact absurd hd (lowerChar_beyond (Nat.not_lt.1 hc))
  · rintro (rfl | rfl)
    · exact (lowerChar_wordChars hd).1
    · exact (lowerChar_wordChars hd).2

/-! ## §2. Words. -/

/-- That a text is a word of small letters, written in any letter case. -/
def InAnyCase (word s : String) : Prop :=
  List.Forall₂ (fun c d => c = d ∨ c = d.toUpper) s.toList word.toList

theorem lowerFrom_eq_iff {word : List Char} (h : word ⊆ wordChars)
    (before cs : List Char) :
    lowerFrom before cs = word ↔ List.Forall₂ (fun c d => c = d ∨ c = d.toUpper) cs word := by
  induction cs generalizing before word with
  | nil => simp [lowerFrom, List.forall₂_nil_left_iff, eq_comm]
  | cons c cs ih =>
      rw [List.forall₂_cons_left_iff, lowerFrom]
      by_cases hplain : c ≠ 'Σ' ∧ c ≠ 'İ'
      · rw [if_neg hplain.1, if_neg hplain.2, List.singleton_append]
        constructor
        · rintro rfl
          obtain ⟨hd, hrest⟩ := List.cons_subset.1 h
          exact ⟨_, _, (lowerChar_eq_iff hd).1 rfl, (ih hrest _).1 rfl, rfl⟩
        · rintro ⟨d, rest, hc, hcs, rfl⟩
          obtain ⟨hd, hrest⟩ := List.cons_subset.1 h
          rw [(lowerChar_eq_iff hd).2 hc, (ih hrest _).2 hcs]
      -- the two exceptions are no letters of a word and do not become any
      · have hbeyond : 128 ≤ c.toNat := by
          rcases not_and_or.1 hplain with hc | hc
          · rw [not_not.1 hc]
            decide
          · rw [not_not.1 hc]
            decide
        constructor
        · rintro rfl
          rcases not_and_or.1 hplain with hc | hc
          · obtain rfl := not_not.1 hc
            rw [if_pos rfl] at h
            split at h
            · exact absurd (@h 'ς' (by simp)) (by decide)
            · exact absurd (@h 'σ' (by simp)) (by decide)
          · obtain rfl := not_not.1 hc
            exact absurd (@h (Char.ofNat 0x307) (by simp)) (by decide)
        · rintro ⟨d, rest, hc, -, rfl⟩
          have hd := h List.mem_cons_self
          exact absurd ((lowerChar_eq_iff hd).2 hc ▸ hd) (lowerChar_beyond hbeyond)

/-- **Small letters make a word of ASCII letters exactly of its spellings in any letter
case.** -/
theorem toLower_eq_iff {word s : String} (h : word.toList ⊆ wordChars) :
    toLower s = word ↔ InAnyCase word s := by
  rw [toLower, ← String.toList_inj, String.toList_ofList]
  exact lowerFrom_eq_iff h [] s.toList

end ClusterBoot.Text
