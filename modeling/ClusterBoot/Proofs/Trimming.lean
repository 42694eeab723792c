/-
  ClusterBoot.Proofs.Trimming
  ────────────────────────────────
  **TRIMMING TAKES AWAY THE PADDING OF A TEXT, AND NOTHING ELSE.**

  A text is padded with white space (`Padded`) or it is `Trimmed`.  Every text is
  its trimmed text with some padding (`padded_trim`), padding does not matter to
  trimming (`trim_padded`), and what is trimmed stays what it is
  (`trim_of_trimmed`).  On lists of characters the work is done by
  `List.dropWhile` and `List.rdropWhile`.
-/
import ClusterBoot.Text.Blank
import Mathlib.Data.List.DropRight

namespace ClusterBoot.Text

/-! ## §1. Texts and padding. -/

/-- A text of white space only, possibly empty. -/
def Blank (s : String) : Prop :=
  ∀ c ∈ s.toList, isBlank c = true

instance : DecidablePred Blank :=
  fun s => List.decidableBAll _ s.toList

/-- A text without white space at its ends. -/
structure Trimmed (s : String) : Prop where
  first : ∀ c, s.toList.head? = some c → isBlank c = false
  last : ∀ c, s.toList.getLast? = some c → isBlank c = false

/-- A text with white space around it. -/
def Padded (s padded : String) : Prop :=
  ∃ before after, Blank before ∧ Blank after ∧ padded = before ++ s ++ after

/-! ## §2. Lists of characters. -/

/-- What is trimmed away at the end. -/
theorem trimEndChars_eq (cs : List Char) : trimEndChars cs = cs.rdropWhile isBlank := rfl

theorem trimEndChars_append {cs after : List Char} (h : ∀ c ∈ after, isBlank c = true) :
    trimEndChars (cs ++ after) = trimEndChars cs := by
  rw [trimEndChars, trimEndChars, List.reverse_append,
    List.dropWhile_append_of_pos fun c hc => h c (List.mem_reverse.1 hc)]

theorem trimChars_padded {before cs after : List Char} (hbefore : ∀ c ∈ before, isBlank c = true)
    (hafter : ∀ c ∈ after, isBlank c = true) :
    trimChars (before ++ cs ++ after) = trimChars cs := by
  rw [trimChars, trimChars, List.append_assoc, List.dropWhile_append_of_pos hbefore,
    List.dropWhile_append]
  split
  next hblank =>
    -- there is nothing but white space
    rw [List.isEmpty_iff.1 hblank, List.dropWhile_eq_nil_iff.2 hafter]
  next => rw [trimEndChars_append hafter]

/-- Every list of characters is the trimmed one with white space around it. -/
theorem exists_padding (cs : List Char) : ∃ before after, (∀ c ∈ before, isBlank c = true)
    ∧ (∀ c ∈ after, isBlank c = true) ∧ cs = before ++ trimChars cs ++ after := by
  refine ⟨cs.takeWhile isBlank, (cs.dropWhile isBlank).rtakeWhile isBlank,
    fun c => List.mem_takeWhile_imp, fun c => List.mem_rtakeWhile_imp, ?_⟩
  rw [trimChars, trimEndChars_eq, List.append_assoc, List.rdropWhile_append_rtakeWhile,
    List.takeWhile_append_dropWhile]

theorem head?_trimChars {cs : List Char} {c : Char} (h : (trimChars cs).head? = some c) :
    isBlank c = false := by
  obtain ⟨rest, hrest⟩ := List.head?_eq_some_iff.1 h
  obtain ⟨after, hafter⟩ : trimChars cs <+: cs.dropWhile isBlank := List.rdropWhile_prefix _ _
  have hhead := List.head?_dropWhile_not isBlank cs
  rw [← hafter, hrest] at hhead
  exact hhead

theorem getLast?_trimChars {cs : List Char} {c : Char} (h : (trimChars cs).getLast? = some c) :
    isBlank c = false := by
  obtain ⟨hne, rfl⟩ := List.mem_getLast?_eq_getLast h
  exact Bool.eq_false_iff.2 (List.rdropWhile_last_not _ _ hne)

/-! ## §3. Trimmed texts. -/

variable {s padded : String}

theorem trimmed_trim (s : String) : Trimmed (trim s) where
  first c h := head?_trimChars (by simpa [trim] using h)
  last c h := getLast?_trimChars (by simpa [trim] using h)

/-- **Every text is its trimmed text with some padding.** -/
theorem padded_trim (s : String) : Padded (trim s) s := by
  obtain ⟨before, after, hbefore, hafter, heq⟩ := exists_padding s.toList
  refine ⟨String.ofList before, String.ofList after, by simpa [Blank] using hbefore,
    by simpa [Blank] using hafter, ?_⟩
  rw [← String.toList_inj]
  simpa [trim] using heq

/-- **Padding does not matter to trimming.** -/
theorem trim_padded (h : Padded s padded) : trim padded = trim s := by
  obtain ⟨before, after, hbefore, hafter, rfl⟩ := h
  rw [trim, String.toList_append, String.toList_append, trimChars_padded hbefore hafter, trim]

/-- What is trimmed stays what it is. -/
theorem trim_of_trimmed (h : Trimmed s) : trim s = s := by
  have hfirst : s.toList.dropWhile isBlank = s.toList := by
    cases hcs : s.toList with
    | nil => rfl
    | cons c cs => exact List.dropWhile_cons_of_neg (by simp [h.first c (by rw [hcs]; rfl)])
  have hlast : s.toList.rdropWhile isBlank = s.toList :=
    List.rdropWhile_eq_self_iff.2 fun hne => by
      simp [h.last _ (List.getLast?_eq_some_getLast hne)]
  rw [trim, trimChars, hfirst, trimEndChars_eq, hlast, String.ofList_toList]

theorem trimmed_iff : Trimmed s ↔ trim s = s :=
  ⟨trim_of_trimmed, fun h => h ▸ trimmed_trim s⟩

instance : DecidablePred Trimmed :=
  fun _ => decidable_of_iff _ trimmed_iff.symm

/-- Nothing is left exactly of white space. -/
theorem trim_eq_empty_iff : trim s = "" ↔ Blank s := by
  constructor
  · intro h c hc
    obtain ⟨before, after, hbefore, hafter, heq⟩ := padded_trim s
    rw [heq, h, String.toList_append, String.toList_append] at hc
    rcases List.mem_append.1 hc with hc | hc
    · rcases List.mem_append.1 hc with hc | hc
      · exact hbefore c hc
      · cases hc
    · exact hafter c hc
  · intro h
    have hpadded : Padded "" s := ⟨s, "", h, by simp [Blank], by simp⟩
    rw [trim_padded hpadded]
    rfl

/-- What is in a text and is no white space was not padding. -/
theorem Padded.mem_iff (h : Padded s padded) {c : Char} (hc : isBlank c = false) :
    c ∈ padded.toList ↔ c ∈ s.toList := by
  obtain ⟨before, after, hbefore, hafter, rfl⟩ := h
  have hnot : ∀ {t : String}, Blank t → c ∉ t.toList := by
    intro t ht hmem
    rw [ht c hmem] at hc
    cases hc
  simp [hnot hbefore, hnot hafter]

end ClusterBoot.Text
