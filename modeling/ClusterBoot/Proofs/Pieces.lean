/-
  ClusterBoot.Proofs.Pieces
  ────────────────────────────────
  **A TEXT AND ITS SEGMENTS DETERMINE EACH OTHER.**

  What the segments of a text are can be said without cutting it: none of them
  has the separator in it, and joined by the separator they are the text
  (`Segments`).  Every text has exactly one such list, its `pieces`
  (`segments_iff`).  On lists of characters the pieces are those of
  `List.splitOn`, so its lemmas hold of them.
-/
import ClusterBoot.Text.Pieces

namespace ClusterBoot.Text

/-! ## §1. Pieces of characters. -/

/-- The pieces are those of the library. -/
theorem piecesOf_eq_splitOn (sep : Char) (cs : List Char) : piecesOf sep cs = cs.splitOn sep := by
  induction cs with
  | nil => rfl
  | cons c r ih =>
      rw [piecesOf, ih, List.splitOn_cons_eq_if_modifyHead]
      by_cases hc : c = sep
      · rw [if_pos hc, if_pos (beq_iff_eq.2 hc)]
      · rw [if_neg hc, if_neg (by simpa using hc)]
        obtain ⟨p, ps, hp⟩ := List.exists_cons_of_ne_nil (List.splitOn_ne_nil sep r)
        rw [hp]
        rfl

theorem piecesOf_ne_nil (sep : Char) (cs : List Char) : piecesOf sep cs ≠ [] :=
  piecesOf_eq_splitOn sep cs ▸ List.splitOn_ne_nil sep cs

/-- A separator ends a piece. -/
theorem piecesOf_append_sep (sep : Char) (as bs : List Char) :
    piecesOf sep (as ++ sep :: bs) = piecesOf sep as ++ piecesOf sep bs := by
  simp only [piecesOf_eq_splitOn, List.splitOn_append_cons_self]

/-- A text without separators is one piece. -/
theorem piecesOf_of_notMem {sep : Char} {cs : List Char} (h : sep ∉ cs) :
    piecesOf sep cs = [cs] :=
  piecesOf_eq_splitOn sep cs ▸ List.splitOn_eq_singleton h

/-- Without a separator the first piece becomes longer. -/
theorem piecesOf_append_of_notMem {sep : Char} {as bs p : List Char} {ps : List (List Char)}
    (h : sep ∉ as) (hp : piecesOf sep bs = p :: ps) :
    piecesOf sep (as ++ bs) = (as ++ p) :: ps := by
  induction as with
  | nil => exact hp
  | cons c as ih =>
      rw [List.mem_cons, not_or] at h
      rw [List.cons_append, piecesOf, if_neg (Ne.symm h.1), ih h.2]
      rfl

/-- No piece has a separator in it. -/
theorem notMem_of_mem_piecesOf {sep : Char} {cs p : List Char} (h : p ∈ piecesOf sep cs) :
    sep ∉ p := by
  induction cs generalizing p with
  | nil => simp_all [piecesOf]
  | cons c r ih =>
      by_cases hc : c = sep
      · simp only [piecesOf, hc, if_true, List.mem_cons] at h
        rcases h with rfl | h
        · simp
        · exact ih h
      · obtain ⟨q, qs, hq⟩ := List.exists_cons_of_ne_nil (piecesOf_ne_nil sep r)
        simp only [piecesOf, hc, if_false, hq, List.mem_cons] at h
        rcases h with rfl | h
        · have hqsep := ih (p := q) (by rw [hq]; simp)
          simp [hqsep, Ne.symm hc]
        · exact ih (by rw [hq]; exact List.mem_cons_of_mem _ h)

/-! ## §2. Pieces of a text. -/

/-- A text without separators is one piece. -/
theorem pieces_of_notMem {sep : Char} {s : String} (h : sep ∉ s.toList) : pieces sep s = [s] := by
  simp [pieces, piecesOf_of_notMem h]

/-- No piece has a separator in it. -/
theorem notMem_of_mem_pieces {sep : Char} {s p : String} (h : p ∈ pieces sep s) :
    sep ∉ p.toList := by
  obtain ⟨cs, hcs, rfl⟩ := List.mem_map.1 h
  rw [String.toList_ofList]
  exact notMem_of_mem_piecesOf hcs

/-- The pieces of a text that is joined from pieces. -/
theorem pieces_intercalate {sep : Char} {ps : List String} (hne : ps ≠ [])
    (h : ∀ p ∈ ps, sep ∉ p.toList) : pieces sep ((String.singleton sep).intercalate ps) = ps := by
  have hcut : ((String.singleton sep).intercalate ps).toList.splitOn sep = ps.map String.toList := by
    rw [String.toList_intercalate, String.toList_singleton]
    apply List.splitOn_intercalate
    · simpa using h
    · simpa using hne
  rw [pieces, piecesOf_eq_splitOn, hcut, List.map_map]
  simp [Function.comp_def]

/-- A text is joined from its pieces. -/
theorem intercalate_pieces (sep : Char) (text : String) :
    (String.singleton sep).intercalate (pieces sep text) = text := by
  have hchars : (pieces sep text).map String.toList = text.toList.splitOn sep := by
    rw [pieces, piecesOf_eq_splitOn, List.map_map]
    simp [Function.comp_def]
  rw [← String.toList_inj, String.toList_intercalate, String.toList_singleton, hchars,
      List.intercalate_splitOn]

/-- The segments of a text between the occurrences of a separator. -/
structure Segments (sep : Char) (text : String) (segments : List String) : Prop where
  /-- A text without separators is its only segment. -/
  nonempty : segments ≠ []
  /-- No segment has a separator in it. -/
  single : ∀ s ∈ segments, sep ∉ s.toList
  /-- Joined by the separator they are the text. -/
  joined : (String.singleton sep).intercalate segments = text

/-- **The segments of a text are its pieces.** -/
theorem segments_iff {sep : Char} {text : String} {segments : List String} :
    Segments sep text segments ↔ segments = pieces sep text := by
  constructor
  · intro h
    rw [← h.joined, pieces_intercalate h.nonempty h.single]
  · rintro rfl
    refine ⟨?_, fun s hs => notMem_of_mem_pieces hs, intercalate_pieces sep text⟩
    simpa [pieces] using piecesOf_ne_nil sep text.toList

end ClusterBoot.Text
