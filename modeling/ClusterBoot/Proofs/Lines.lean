/-
  ClusterBoot.Proofs.Lines
  ────────────────────────────────
  **TEXTS MADE OF LINES.**

  Lines go together as their texts do (`unlines_append`).  If no line has a
  line feed in it, the text can be cut into the lines again
  (`pieces_unlines`); a line that has none is a line of the text in any case
  (`mem_pieces_unlines`).

  Lines that are made of fixed texts and of values stay whole if no value has a
  line feed in it (`MadeLines.whole`).
-/
import ClusterBoot.Proofs.Pieces
import ClusterBoot.Text.Lines

namespace ClusterBoot.Text

/-! ## §1. Lines and their text. -/

@[simp] theorem unlines_nil : unlines [] = "" := rfl

@[simp] theorem unlines_cons (l : String) (ls : List String) :
    unlines (l :: ls) = l ++ "\n" ++ unlines ls := by
  rw [unlines, List.map_cons, String.join_cons]
  rfl

@[simp] theorem unlines_append (ls ms : List String) :
    unlines (ls ++ ms) = unlines ls ++ unlines ms := by
  induction ls with
  | nil => rw [List.nil_append, unlines_nil, String.empty_append]
  | cons l ls ih => simp only [List.cons_append, unlines_cons, ih, String.append_assoc]

/-- The characters of a text of lines. -/
theorem toList_unlines (ls : List String) :
    (unlines ls).toList = ls.flatMap fun l => l.toList ++ ['\n'] := by
  induction ls with
  | nil => rfl
  | cons l ls ih =>
      rw [unlines_cons, String.toList_append, String.toList_append, ih, List.flatMap_cons]
      rfl

/-- The line feed after a line ends a piece. -/
theorem pieces_unlines_cons (l : String) (ls : List String) :
    pieces '\n' (unlines (l :: ls)) = pieces '\n' l ++ pieces '\n' (unlines ls) := by
  have hchars : (unlines (l :: ls)).toList = l.toList ++ '\n' :: (unlines ls).toList := by
    rw [unlines_cons, String.toList_append, String.toList_append, List.append_assoc]
    rfl
  unfold pieces
  rw [hchars, piecesOf_append_sep, List.map_append]

/-- **A text can be cut into its lines again**, if none of them has a line feed in
it. -/
theorem pieces_unlines {ls : List String} (h : ∀ l ∈ ls, '\n' ∉ l.toList) :
    pieces '\n' (unlines ls) = ls ++ [""] := by
  induction ls with
  | nil => rfl
  | cons l ls ih =>
      obtain ⟨hline, hrest⟩ := List.forall_mem_cons.1 h
      rw [pieces_unlines_cons, pieces_of_notMem hline, ih hrest]
      rfl

/-- A line without a line feed in it is a line of the text, whatever the others
are. -/
theorem mem_pieces_unlines {l : String} {ls : List String} (h : l ∈ ls)
    (hline : '\n' ∉ l.toList) : l ∈ pieces '\n' (unlines ls) := by
  induction ls with
  | nil => cases h
  | cons m ls ih =>
      rw [pieces_unlines_cons, List.mem_append]
      rcases List.mem_cons.1 h with rfl | h
      · rw [pieces_of_notMem hline]
        exact .inl (List.mem_singleton_self l)
      · exact .inr (ih h)

/-! ## §2. Lines with values in them. -/

/-- A text is made of values, and of fixed texts without line feeds. -/
inductive Made (values : List String) : String → Prop where
  | append {a b : String} (ha : Made values a) (hb : Made values b) : Made values (a ++ b)
  | fixed {cs : List Char} (h : '\n' ∉ cs) : Made values (String.ofList cs)
  | value {a : String} (h : a ∈ values) : Made values a

/-- All lines are made so. -/
inductive MadeLines (values : List String) : List String → Prop where
  | nil : MadeLines values []
  | cons {l : String} {ls : List String} (hl : Made values l) (h : MadeLines values ls) :
      MadeLines values (l :: ls)
  | append {ls ms : List String} (hl : MadeLines values ls) (hm : MadeLines values ms) :
      MadeLines values (ls ++ ms)

section
variable {values : List String} {s : String} {ls : List String}

/-- Only a value can have a line feed in it. -/
theorem Made.unbroken (h : Made values s) (hvalues : ∀ x ∈ values, '\n' ∉ x.toList) :
    '\n' ∉ s.toList := by
  induction h with
  | append _ _ iha ihb =>
      rw [String.toList_append, List.mem_append]
      exact fun h => h.elim iha ihb
  | fixed h => rwa [String.toList_ofList]
  | value h => exact hvalues _ h

theorem MadeLines.of_forall (h : ∀ l ∈ ls, Made values l) : MadeLines values ls := by
  induction ls with
  | nil => exact .nil
  | cons l ls ih =>
      obtain ⟨hl, hls⟩ := List.forall_mem_cons.1 h
      exact .cons hl (ih hls)

theorem MadeLines.mem (h : MadeLines values ls) : ∀ l ∈ ls, Made values l := by
  induction h with
  | nil => simp
  | cons hl _ ih => exact List.forall_mem_cons.2 ⟨hl, ih⟩
  | append _ _ ihl ihm => exact List.forall_mem_append.2 ⟨ihl, ihm⟩

/-- The text of lines has just these lines, if no value has a line feed in it. -/
theorem MadeLines.whole (h : MadeLines values ls) (hvalues : ∀ x ∈ values, '\n' ∉ x.toList) :
    pieces '\n' (unlines ls) = ls ++ [""] :=
  pieces_unlines fun l hl => (h.mem l hl).unbroken hvalues

end

end ClusterBoot.Text
