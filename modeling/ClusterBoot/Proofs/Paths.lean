/-
  ClusterBoot.Proofs.Paths
  ────────────────────────────────
  **WHERE A PATH LEADS.**

  The steps of a path are its pieces that move: not the empty ones and not a
  single point.  Following them from the root of the path gives its `target`,
  whatever the files are; a file tree only decides whether the path can be
  followed.  Joining paths appends their steps (`steps_join`), so the target
  of a joined path lies in the target of its base (`target_join`), and so does
  that of the file beside it that a download is received in
  (`target_partOf_join`).
-/
import ClusterBoot.FileTree
import ClusterBoot.Proofs.Pieces

namespace ClusterBoot

/-! ## §1. Steps. -/

namespace Path

/-- Whether a piece of a path moves. -/
def isStep (piece : String) : Bool :=
  piece ≠ "" && piece ≠ "."

/-- The pieces of a path that move. -/
def steps (path : String) : List String :=
  (Text.pieces '/' path).filter isStep

/-- Where a path starts. -/
def root (path : String) : Location :=
  if isAbsolute path then ["/"] else []

/-- The location after a step. -/
def descend (l : Location) (step : String) : Location :=
  if step = ".." then FileTree.up l else l ++ [step]

/-- Where a path leads if it can be followed. -/
def target (path : String) : Location :=
  (steps path).foldl descend (root path)

/-- A text that names something in a directory. -/
structure IsName (name : String) : Prop where
  /-- It moves. -/
  isStep : isStep name = true
  /-- It does not move upwards. -/
  ne_up : name ≠ ".."
  /-- It is one piece. -/
  single : '/' ∉ name.toList

instance (name : String) : Decidable (IsName name) :=
  decidable_of_iff (isStep name = true ∧ name ≠ ".." ∧ '/' ∉ name.toList)
    ⟨fun h => ⟨h.1, h.2.1, h.2.2⟩, fun h => ⟨h.isStep, h.ne_up, h.single⟩⟩

theorem IsName.ne_empty {name : String} (h : IsName name) : name ≠ "" := by
  have := h.isStep
  simp only [Path.isStep, Bool.and_eq_true, decide_eq_true_eq] at this
  exact this.1

theorem IsName.notAbsolute {name : String} (h : IsName name) : isAbsolute name = false := by
  rw [isAbsolute, decide_eq_false_iff_not]
  intro habs
  exact h.single (List.mem_of_mem_head? habs)

theorem IsName.pieces {name : String} (h : IsName name) : Text.pieces '/' name = [name] :=
  Text.pieces_of_notMem h.single

theorem IsName.steps {name : String} (h : IsName name) : Path.steps name = [name] := by
  rw [Path.steps, h.pieces, List.filter_cons_of_pos h.isStep, List.filter_nil]

/-- A name stays one with the mark of a file that is received. -/
theorem isName_part {name : String} (h : IsName name) : IsName (name ++ ".part") := by
  have hlength : ∀ other : String, other.length < 5 → name ++ ".part" ≠ other := by
    intro other hother heq
    have hsame := congrArg String.length heq
    rw [String.length_append, show ".part".length = 5 by decide] at hsame
    omega
  refine ⟨?_, hlength _ (by decide), ?_⟩
  · simp only [isStep, Bool.and_eq_true, decide_eq_true_eq]
    exact ⟨hlength _ (by decide), hlength _ (by decide)⟩
  · rw [String.toList_append, List.mem_append, not_or]
    exact ⟨h.single, by decide⟩

/-! ## §2. Joining. -/

/-- Joining a path that is not absolute. -/
theorem join_of_relative {base second : String} (h : isAbsolute second = false) :
    join base second = if base = "" ∨ base.toList.getLast? = some '/' then base ++ second
      else base ++ "/" ++ second :=
  if_neg (by simp [h])

/-- The pieces of a joined path, one after the other; where the base ends with
a slash or is empty, an empty piece is missing. -/
theorem pieces_join (base : String) {second : String} (h : isAbsolute second = false) :
    Text.pieces '/' (join base second) = Text.pieces '/' base ++ Text.pieces '/' second
      ∨ Text.pieces '/' (join base second)
          = (Text.pieces '/' base).dropLast ++ Text.pieces '/' second
        ∧ (Text.pieces '/' base).getLast? = some "" := by
  unfold join
  rw [if_neg (by simp [h])]
  split
  next hbase =>
    right
    rcases hbase with rfl | hbase
    -- an empty base has the empty piece alone
    · refine ⟨?_, rfl⟩
      rw [String.empty_append]
      rfl
    · obtain ⟨front, hfront⟩ := List.getLast?_eq_some_iff.1 hbase
      have hpieces : Text.piecesOf '/' base.toList = Text.piecesOf '/' front ++ [[]] := by
        rw [hfront, Text.piecesOf_append_sep]
        rfl
      have hjoin : Text.piecesOf '/' (base ++ second).toList
          = Text.piecesOf '/' front ++ Text.piecesOf '/' second.toList := by
        rw [String.toList_append, hfront, List.append_assoc, List.singleton_append,
            Text.piecesOf_append_sep]
      constructor
      · rw [Text.pieces, hjoin]
        simp [Text.pieces, hpieces]
      · simp [Text.pieces, hpieces]
  next =>
    left
    simp only [Text.pieces, String.toList_append, List.append_assoc]
    rw [show ("/" : String).toList = ['/'] from rfl, List.singleton_append,
        Text.piecesOf_append_sep, List.map_append]

/-- The steps of a joined path are those of its parts. -/
theorem steps_join {base second : String} (h : isAbsolute second = false) :
    steps (join base second) = steps base ++ steps second := by
  unfold steps
  rcases pieces_join base h with hp | ⟨hp, hlast⟩
  · rw [hp, List.filter_append]
  · -- the piece that is missing is empty, so it is no step
    obtain ⟨front, hfront⟩ := List.getLast?_eq_some_iff.1 hlast
    rw [hp, hfront, List.dropLast_concat]
    simp [List.filter_append, isStep]

/-- A joined path starts where its base does. -/
theorem root_join {base second : String} (h : isAbsolute second = false) :
    root (join base second) = root base := by
  have key : isAbsolute (join base second) = isAbsolute base := by
    unfold join
    rw [if_neg (by simp [h])]
    by_cases hb : base = ""
    · subst hb
      rw [if_pos (.inl rfl), String.empty_append, h]
      rfl
    · have hne : base.toList ≠ [] := by simpa using hb
      -- with a slash between or not, the first character is that of the base
      obtain ⟨c, cs, hcs⟩ := List.exists_cons_of_ne_nil hne
      split <;> simp [isAbsolute, hcs]
  rw [root, root, key]

/-- A name leads into the target of what it is joined to. -/
theorem target_join {base name : String} (h : IsName name) :
    target (join base name) = target base ++ [name] := by
  rw [target, steps_join h.notAbsolute, root_join h.notAbsolute, h.steps, List.foldl_append]
  show descend (target base) name = _
  rw [descend, if_neg h.ne_up]

/-- A path may be joined at once or name by name. -/
theorem join_join (base : String) {name second : String} (hname : IsName name)
    (hsecond : isAbsolute second = false) :
    join (join base name) second = join base (name ++ "/" ++ second) := by
  obtain ⟨c, cs, hcs⟩ := List.exists_cons_of_ne_nil (l := name.toList) (by simpa using hname.ne_empty)
  have habs : isAbsolute (name ++ "/" ++ second) = false := by
    have h := hname.notAbsolute
    rw [isAbsolute, hcs] at h
    rw [isAbsolute, String.toList_append, String.toList_append, hcs]
    exact h
  -- the inner path ends in the name, so a slash is put behind it in any case
  have hlast : (join base name).toList.getLast? ≠ some '/' := by
    obtain ⟨front, hfront⟩ : ∃ front, join base name = front ++ name := by
      rw [join_of_relative hname.notAbsolute]
      split
      · exact ⟨base, rfl⟩
      · exact ⟨base ++ "/", rfl⟩
    rw [hfront, String.toList_append, List.getLast?_append]
    intro h
    cases hend : name.toList.getLast? with
    | none => simp [hcs] at hend
    | some e =>
        rw [hend] at h
        obtain rfl := Option.some.inj h
        exact hname.single (List.mem_of_getLast? hend)
  have hne : join base name ≠ "" := by
    intro h
    have hsteps : steps (join base name) = _ := steps_join hname.notAbsolute
    rw [h, hname.steps] at hsteps
    exact absurd hsteps (by simp [steps, Text.pieces, Text.piecesOf, isStep])
  rw [join_of_relative hsecond, if_neg (by simp [hne, hlast]), join_of_relative hname.notAbsolute,
      join_of_relative habs]
  split
  · rw [String.append_assoc, String.append_assoc, String.append_assoc]
  · simp only [String.append_assoc]

/-! ## §3. The file that a download is received in. -/

/-- A path is absolute exactly if an empty piece comes before others. -/
theorem isAbsolute_iff (path : String) :
    isAbsolute path = true ↔ ∃ q r, Text.pieces '/' path = "" :: q :: r := by
  unfold isAbsolute Text.pieces
  rw [decide_eq_true_eq]
  cases hcs : path.toList with
  | nil => simp [Text.piecesOf]
  | cons c cs =>
      obtain ⟨p, ps, hps⟩ := List.exists_cons_of_ne_nil (Text.piecesOf_ne_nil '/' cs)
      by_cases hc : c = '/'
      · simp [Text.piecesOf, hc, hps]
      · simp [Text.piecesOf, hc, hps]

/-- What `dropIdle` drops does not move. -/
theorem filter_dropIdle (ps : List String) : (dropIdle ps).filter isStep = ps.filter isStep := by
  induction ps with
  | nil => rfl
  | cons p ps ih =>
      cases ps with
      | nil =>
          unfold dropIdle
          split
          next => rfl
          next h => simp_all [isComponent, isStep]
      | cons q qs =>
          unfold dropIdle
          split
          next => rfl
          next h =>
            rw [ih]
            symm
            apply List.filter_cons_of_neg
            simpa [isComponent, isStep] using h

/-- `dropIdle` keeps the end, and a lonely empty piece is dropped. -/
theorem dropIdle_suffix (ps : List String) : dropIdle ps <:+ ps ∧ dropIdle ps ≠ [""] := by
  induction ps with
  | nil => simp [dropIdle]
  | cons p ps ih =>
      cases ps with
      | nil =>
          unfold dropIdle
          split
          next h => simp_all [isComponent]
          next => simp
      | cons q qs =>
          unfold dropIdle
          split
          next => simp
          next => exact ⟨ih.1.trans (List.suffix_cons p _), ih.2⟩

/-- `dropIdle` drops no name. -/
theorem dropIdle_cons {name : String} (h : IsName name) (ps : List String) :
    dropIdle (name :: ps) = name :: ps := by
  have hstep := h.isStep
  simp only [isStep, Bool.and_eq_true, decide_eq_true_eq] at hstep
  cases ps with
  | nil => simp [dropIdle, isComponent, hstep]
  | cons p ps => simp [dropIdle, isComponent, hstep]

/-- The pieces of a path that a name was joined to: its name comes last, and
before it are the steps of the base. -/
theorem pieces_join_name (dir : String) {name : String} (h : IsName name) :
    ∃ front, Text.pieces '/' (join dir name) = front ++ [name]
      ∧ front.filter isStep = steps dir := by
  rcases pieces_join dir h.notAbsolute with hp | ⟨hp, hlast⟩
  · exact ⟨_, by rw [hp, h.pieces], rfl⟩
  · obtain ⟨front, hfront⟩ := List.getLast?_eq_some_iff.1 hlast
    rw [hfront, List.dropLast_concat] at hp
    refine ⟨front, by rw [hp, h.pieces], ?_⟩
    unfold steps
    rw [hfront]
    simp [List.filter_append, isStep]

/-- A path backwards, if its last piece is a name. -/
theorem backward_of_pieces {path name : String} {front : List String} (h : IsName name)
    (hp : Text.pieces '/' path = front ++ [name]) : backward path = name :: front.reverse := by
  rw [backward, hp, List.reverse_append, List.reverse_singleton, List.singleton_append,
      dropIdle_cons h]

/-- What is left of the pieces of a path at its front starts where the path
does. -/
theorem root_ofBackward {path q name : String} {qs front : List String}
    (hp : Text.pieces '/' path = front ++ [name]) (hqs : dropIdle front.reverse = q :: qs) :
    Text.pieces '/' (ofBackward (q :: qs)) = (q :: qs).reverse
      ∧ root (ofBackward (q :: qs)) = root path := by
  obtain ⟨⟨more, hmore⟩, hlonely⟩ := hqs ▸ dropIdle_suffix front.reverse
  have hfront : front = (q :: qs).reverse ++ more.reverse := by
    rw [← List.reverse_append, hmore, List.reverse_reverse]
  have hpieces : Text.pieces '/' (ofBackward (q :: qs)) = (q :: qs).reverse := by
    apply Text.pieces_intercalate (by simp)
    intro p hmem
    -- what is left are pieces of the path, and those have no slash
    apply Text.notMem_of_mem_pieces (s := path)
    rw [hp, hfront]
    simp only [List.mem_append]
    exact .inl (.inl hmem)
  refine ⟨hpieces, ?_⟩
  have hsame : isAbsolute (ofBackward (q :: qs)) = true ↔ isAbsolute path = true := by
    rw [isAbsolute_iff, isAbsolute_iff, hpieces, hp, hfront]
    cases hrev : (q :: qs).reverse with
    | nil => simp at hrev
    | cons a as =>
        cases as with
        | nil =>
            -- a single piece that is left is not the empty one, so neither path is absolute
            have ha : a ≠ "" := by
              intro heq
              subst heq
              rw [List.reverse_eq_iff] at hrev
              exact hlonely hrev
            simp [ha]
        | cons b bs => simp
  by_cases habs : isAbsolute path = true
  · rw [root, root, if_pos habs, if_pos (hsame.2 habs)]
  · rw [root, root, if_neg habs, if_neg fun h => habs (hsame.1 h)]

/-- What is left of a path without its last name takes the same way as what the
name was joined to. -/
theorem parent_join (dir : String) {name : String} (h : IsName name) :
    ∃ parent, parent? (join dir name) = some parent ∧ steps parent = steps dir
      ∧ root parent = root dir := by
  obtain ⟨front, hpieces, hfront⟩ := pieces_join_name dir h
  have hstart : root (join dir name) = root dir := root_join h.notAbsolute
  have hidle := filter_dropIdle front.reverse
  unfold parent?
  rw [backward_of_pieces h hpieces]
  cases hqs : dropIdle front.reverse with
  | nil =>
      -- nothing but idle pieces came before the name: the parent is the root or the path's start
      rw [hqs, List.filter_nil, List.filter_reverse, eq_comm, List.reverse_eq_nil_iff, hfront]
        at hidle
      by_cases habs : isAbsolute (join dir name) = true
      · refine ⟨"/", by simp [habs, hqs], by rw [hidle]; rfl, ?_⟩
        rw [← hstart, root, root, if_pos habs]
        rfl
      · refine ⟨"", by simp [habs, hqs], by rw [hidle]; rfl, ?_⟩
        rw [← hstart, root, root, if_neg habs]
        rfl
  | cons q qs =>
      rw [hqs] at hidle
      obtain ⟨hparts, hroot⟩ := root_ofBackward hpieces hqs
      refine ⟨ofBackward (q :: qs), by simp only [hqs], ?_, hroot.trans hstart⟩
      rw [steps, hparts, List.filter_reverse, hidle, List.filter_reverse, List.reverse_reverse,
        hfront]

/-- The name ends the text of the pieces that it is the last one of. -/
theorem intercalate_concat_eq (front : List String) (name : String) :
    ∃ gap, "/".intercalate (front ++ [name]) = gap ++ name := by
  by_cases hfront : front = []
  · exact ⟨"", by simp [hfront, String.intercalate_singleton]⟩
  · rw [String.intercalate_append_of_ne_nil hfront (by simp), String.intercalate_singleton]
    exact ⟨_, rfl⟩

/-- The text of a path that a name was joined to begins with that of its parent,
and a slash comes in between. -/
theorem parent_text (dir : String) {name : String} (h : IsName name) :
    ∃ parent gap, parent? (join dir name) = some parent ∧ join dir name = parent ++ gap ++ name
      ∧ (parent = "" ∨ parent.toList.getLast? = some '/' ∨ '/' ∈ gap.toList) := by
  obtain ⟨front, hpieces, -⟩ := pieces_join_name dir h
  have htext : "/".intercalate (front ++ [name]) = join dir name :=
    hpieces ▸ Text.intercalate_pieces '/' (join dir name)
  unfold parent?
  rw [backward_of_pieces h hpieces]
  cases hqs : dropIdle front.reverse with
  | nil =>
      by_cases habs : isAbsolute (join dir name) = true
      · obtain ⟨q, r, hqr⟩ := (isAbsolute_iff _).1 habs
        -- the first piece is empty, and the name is another one
        obtain ⟨rest, rfl⟩ : ∃ rest, front = "" :: rest := by
          cases front with
          | nil => simp [hpieces] at hqr
          | cons p rest => exact ⟨rest, by rw [(List.cons.inj (hpieces.symm.trans hqr)).1]⟩
        obtain ⟨gap, hgap⟩ := intercalate_concat_eq rest name
        rw [List.cons_append, String.intercalate_cons_of_ne_nil (by simp), hgap] at htext
        refine ⟨"/", gap, by simp only [hqs, habs, if_true], ?_, .inr (.inl rfl)⟩
        rw [← htext, String.empty_append, String.append_assoc]
      · obtain ⟨gap, hgap⟩ := intercalate_concat_eq front name
        refine ⟨"", gap, by simp [habs, hqs], ?_, .inl rfl⟩
        rw [← htext, hgap, String.empty_append]
  | cons q qs =>
      obtain ⟨⟨more, hmore⟩, -⟩ := hqs ▸ dropIdle_suffix front.reverse
      have hfront : front = (q :: qs).reverse ++ more.reverse := by
        rw [← List.reverse_append, hmore, List.reverse_reverse]
      obtain ⟨gap, hgap⟩ := intercalate_concat_eq more.reverse name
      rw [hfront, List.append_assoc, String.intercalate_append_of_ne_nil (by simp) (by simp),
        hgap] at htext
      refine ⟨ofBackward (q :: qs), "/" ++ gap, by simp only [hqs], ?_, .inr (.inr (by simp))⟩
      rw [← htext]
      simp only [String.append_assoc]
      rfl

/-- The file that a download is received in is beside its destination. -/
theorem partOf_join {dir name parent : String} (h : IsName name)
    (hparent : parent? (join dir name) = some parent) :
    partOf (join dir name) = join parent (name ++ ".part") := by
  obtain ⟨front, hpieces, -⟩ := pieces_join_name dir h
  have hfile : fileName? (join dir name) = some name := by
    have hstep := h.isStep
    simp only [isStep, Bool.and_eq_true, decide_eq_true_eq] at hstep
    rw [fileName?, backward_of_pieces h hpieces]
    simp [hstep, h.ne_up]
  rw [partOf, beside, hfile, hparent]
  rfl

/-- The file that a download is received in lies beside its destination. -/
theorem target_partOf_join {dir name : String} (h : IsName name) (hpart : IsName (name ++ ".part")) :
    target (partOf (join dir name)) = target dir ++ [name ++ ".part"] := by
  obtain ⟨parent, hparent, hsteps, hstart⟩ := parent_join dir h
  rw [partOf_join h hparent, target_join hpart, target, hsteps, hstart, target]

end Path

end ClusterBoot
