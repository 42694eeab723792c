/-
  ClusterBoot.Proofs.GrownTrees
  ────────────────────────────────
  **DOING ONCE MORE WHAT WAS DONE TO A FILE TREE.**

  A tree that grows loses no directory and no file.  Where a path could be
  followed or directories could be made, this can be done again later
  (`locate_mono`, `makeDirs_again`), and the directories are then there already.

  A repetition of what led to a tree starts with that tree, the `goal`.  While
  it goes on, a file may hold what it held at that moment of the original
  instead of what it holds at the end, and nothing else may differ (`Replays`).
  At the end there is no such difference (`Replays.final`).
-/
import ClusterBoot.Proofs.AlikeTrees

namespace ClusterBoot.FileTree

open ClusterBoot.Path (isStep target descend root)

/-! ## §1. Trees that grow. -/

/-- There is a file at a location. -/
def IsFile (t : FileTree) (l : Location) : Prop :=
  ∃ content executable, t.get? l = some (.file content executable)

/-- What was there is still there, though files may be others. -/
structure GrowsTo (t t' : FileTree) : Prop where
  /-- A directory stays. -/
  directory : ∀ {l}, t.get? l = some .directory → t'.get? l = some .directory
  /-- A file stays a file. -/
  file : ∀ {l}, t.IsFile l → t'.IsFile l

theorem IsFile.ne_directory {t : FileTree} {l : Location} (h : t.IsFile l) :
    t.get? l ≠ some .directory := by
  obtain ⟨content, executable, h⟩ := h
  simp [h]

theorem GrowsTo.refl (t : FileTree) : t.GrowsTo t := ⟨id, id⟩

theorem GrowsTo.trans {t t' t'' : FileTree} (h : t.GrowsTo t') (h' : t'.GrowsTo t'') :
    t.GrowsTo t'' :=
  ⟨fun hl => h'.directory (h.directory hl), fun hl => h'.file (h.file hl)⟩

/-- A tree grows if every location is kept. -/
theorem growsTo_of_keeps {t t' : FileTree} (h : ∀ l, Keeps l t t') : t.GrowsTo t' :=
  ⟨fun hl => (h _).get?_eq hl, fun ⟨content, executable, hl⟩ =>
    ⟨content, executable, (h _).get?_eq hl⟩⟩

/-- A file is put where no directory is. -/
theorem growsTo_of_put {t t' : FileTree} {l : Location} {content : ByteArray} {executable : Bool}
    (hdir : t.get? l ≠ some .directory)
    (h : ∀ m, t'.get? m = (t.put l (.file content executable)).get? m) : t.GrowsTo t' := by
  have hl : t'.get? l = some (.file content executable) := (h l).trans (get?_put_self _ hdir)
  have hother : ∀ m, m ≠ l → t'.get? m = t.get? m := fun m hm =>
    (h m).trans (get?_put_of_ne _ hm)
  refine ⟨fun {m} hm => ?_, fun {m} hm => ?_⟩
  · have hne : m ≠ l := by
      rintro rfl
      exact hdir hm
    rw [hother m hne, hm]
  · by_cases hml : m = l
    · exact ⟨content, executable, hml ▸ hl⟩
    · obtain ⟨content', executable', hm⟩ := hm
      exact ⟨content', executable', (hother m hml).trans hm⟩

/-! ## §2. Paths in a tree that grew. -/

section
variable {t u : FileTree}

/-- Pieces that could be followed still can if directories stay. -/
theorem follow_mono (hdir : ∀ l, t.get? l = some .directory → u.get? l = some .directory)
    {m l : Location} {ps : List String} (h : t.follow m ps = .ok l) : u.follow m ps = .ok l := by
  induction ps generalizing m with
  | nil => exact h
  | cons p ps ih =>
      by_cases hidle : p = "" ∨ p = "."
      · rw [follow, if_pos hidle] at h ⊢
        exact ih h
      by_cases hup : p = ".."
      · rw [follow, if_neg hidle, if_pos hup] at h ⊢
        exact ih h
      by_cases hsize : maxNameSize < p.utf8ByteSize
      · rw [follow, if_neg hidle, if_neg hup, if_pos hsize] at h
        exact absurd h (by simp)
      by_cases hopen : t.get? (m ++ [p]) = some .directory
      · rw [follow, if_neg hidle, if_neg hup, if_neg hsize, hopen] at h
        rw [follow, if_neg hidle, if_neg hup, if_neg hsize, hdir _ hopen]
        exact ih h
      · -- the path ends here, whatever is there now
        obtain ⟨rfl, rfl⟩ := (follow_cons_of_ne_directory hidle hup hsize hopen).1 h
        by_cases hopen' : u.get? (m ++ [p]) = some .directory
        · rw [follow, if_neg hidle, if_neg hup, if_neg hsize, hopen']
          rfl
        · exact (follow_cons_of_ne_directory hidle hup hsize hopen').2 ⟨rfl, rfl⟩

/-- So do paths. -/
theorem locate_mono (hdir : ∀ l, t.get? l = some .directory → u.get? l = some .directory)
    {path : String} {l : Location} (h : t.locate path = .ok l) : u.locate path = .ok l := by
  unfold locate at h ⊢
  split at h
  next => exact absurd h (by simp)
  next husable =>
    rw [if_neg husable]
    split at h
    next => exact absurd h (by simp)
    next hne =>
      rw [if_neg hne]
      exact follow_mono hdir h

/-- Directories that were made are there when they are made again. -/
theorem makeDirsFrom_again {m : Location} {ps : List String}
    (hmade : (t.makeDirsFrom m ps).1 = true)
    (hdir : ∀ l, (t.makeDirsFrom m ps).2.get? l = some .directory → u.get? l = some .directory) :
    u.makeDirsFrom m ps = (true, u) := by
  induction ps generalizing t m with
  | nil => rfl
  | cons p ps ih =>
      by_cases hidle : p = "" ∨ p = "."
      · rw [makeDirsFrom, if_pos hidle] at hmade hdir ⊢
        exact ih hmade hdir
      by_cases hup : p = ".."
      · rw [makeDirsFrom, if_neg hidle, if_pos hup] at hmade hdir ⊢
        exact ih hmade hdir
      by_cases hsize : maxNameSize < p.utf8ByteSize
      · rw [makeDirsFrom, if_neg hidle, if_neg hup, if_pos hsize] at hmade
        exact absurd hmade (by simp)
      rw [makeDirsFrom, if_neg hidle, if_neg hup, if_neg hsize] at hmade hdir ⊢
      cases hget : t.get? (m ++ [p]) with
      | none =>
          simp only [hget] at hmade hdir
          -- the directory that was made is kept by what was made after it
          have hput : (t.put (m ++ [p]) .directory).get? (m ++ [p]) = some .directory :=
            get?_put_self _ (by simp [hget])
          rw [hdir _ ((keeps_makeDirsFrom _ _ _ _).get?_eq hput)]
          exact ih hmade hdir
      | some e =>
          cases e with
          | directory =>
              simp only [hget] at hmade hdir
              rw [hdir _ ((keeps_makeDirsFrom _ _ _ _).get?_eq hget)]
              exact ih hmade hdir
          | file content executable =>
              simp only [hget] at hmade
              exact absurd hmade (by simp)

/-- So it is with the directories of a path. -/
theorem makeDirs_again {path : String} (hmade : (t.makeDirs path).1 = true)
    (hdir : ∀ l, (t.makeDirs path).2.get? l = some .directory → u.get? l = some .directory) :
    u.makeDirs path = (true, u) := by
  unfold makeDirs at hmade hdir ⊢
  by_cases husable : isUnusable path = true
  · rw [if_pos husable] at hmade
    exact absurd hmade (by simp)
  · rw [if_neg husable] at hmade hdir ⊢
    exact makeDirsFrom_again hmade hdir

/-- Pieces lead to the same place if the same is at the locations on the way. -/
theorem follow_congr {m : Location} {ps : List String}
    (h : ∀ front, front <+: ps.filter isStep →
      u.get? (front.foldl descend m) = t.get? (front.foldl descend m)) :
    u.follow m ps = t.follow m ps := by
  induction ps generalizing m with
  | nil => rfl
  | cons p ps ih =>
      by_cases hidle : p = "" ∨ p = "."
      · rw [List.filter_cons_of_neg (by rcases hidle with rfl | rfl <;> simp [isStep])] at h
        rw [follow, follow, if_pos hidle, if_pos hidle]
        exact ih h
      have hstep : isStep p = true := by simpa [isStep] using hidle
      rw [List.filter_cons_of_pos hstep] at h
      have hrest : ∀ front, front <+: ps.filter isStep →
          u.get? (front.foldl descend (descend m p)) = t.get? (front.foldl descend (descend m p)) :=
        fun front hfront => h (p :: front) ((List.prefix_cons_inj p).2 hfront)
      by_cases hup : p = ".."
      · rw [descend, if_pos hup] at hrest
        rw [follow, follow, if_neg hidle, if_neg hidle, if_pos hup, if_pos hup]
        exact ih hrest
      · have hname : u.get? (m ++ [p]) = t.get? (m ++ [p]) := by
          have hone := hrest [] List.nil_prefix
          rwa [List.foldl_nil, descend, if_neg hup] at hone
        rw [descend, if_neg hup] at hrest
        rw [follow, follow, if_neg hidle, if_neg hidle, if_neg hup, if_neg hup, hname, ih hrest]

/-- A path leads to the same place if the same is at the locations that it
passes. -/
theorem locate_congr {path : String} (h : ∀ l, Path.Passes path l → u.get? l = t.get? l) :
    u.locate path = t.locate path := by
  have hfollow : u.follow (startOf path).1 (startOf path).2
      = t.follow (startOf path).1 (startOf path).2 :=
    follow_congr fun front hfront => h _ ⟨front, hfront, rfl⟩
  rw [locate, locate, hfollow]

/-- Then the same is read. -/
theorem read_congr {path : String} (h : ∀ l, Path.Passes path l → u.get? l = t.get? l) :
    u.read path = t.read path := by
  rw [read, read, locate_congr h]
  cases hl : t.locate path with
  | error obstacle => rfl
  | ok l =>
      obtain rfl := locate_eq_target hl
      have htarget : u.get? (target path) = t.get? (target path) :=
        h _ ⟨_, List.prefix_refl _, rfl⟩
      simp only [htarget]

end

/-! ## §3. Repeating what led to a tree. -/

/-- The tree `u` of a repetition that started with `goal`, while the original is
at `t`: a file may differ from the one of `goal`, and then its content or its
mode is that of the original.  `R` says which contents are written in place of
which. -/
def Replays (R : Location → ByteArray → ByteArray → Prop) (goal t u : FileTree) : Prop :=
  ∀ l, u.get? l = goal.get? l ∨ ∃ old now final mode mode' mode'',
    t.get? l = some (.file old mode) ∧ u.get? l = some (.file now mode')
      ∧ goal.get? l = some (.file final mode'')
      ∧ (R l old now ∨ now = final) ∧ (mode' = mode ∨ mode' = mode'')

section
variable {R : Location → ByteArray → ByteArray → Prop} {goal t t' u u' : FileTree} {l : Location}

/-- A repetition starts with the tree that the original led to. -/
theorem Replays.start (goal t : FileTree) : Replays R goal t goal := fun _ => .inl rfl

/-- At the end contents may differ as `R` says, and nothing else. -/
theorem Replays.final (h : Replays R goal goal u) (hR : ∀ l content, R l content content)
    (l : Location) : u.get? l = goal.get? l ∨ ∃ old now mode, R l old now
      ∧ goal.get? l = some (.file old mode) ∧ u.get? l = some (.file now mode) := by
  rcases h l with h | ⟨old, now, final, mode, mode', mode'', hgoal, hu, hfinal, hcontent, hmode⟩
  · exact .inl h
  · rw [hgoal] at hfinal
    cases hfinal
    have hsame : mode' = mode := hmode.elim id id
    subst hsame
    rcases hcontent with hcontent | rfl
    · exact .inr ⟨old, now, mode', hcontent, hgoal, hu⟩
    · exact .inr ⟨now, now, mode', hR l now, hgoal, hu⟩

/-- Only what is at locations counts. -/
theorem Replays.congr (h : Replays R goal t u) (ht : ∀ l, t'.get? l = t.get? l)
    (hu : ∀ l, u'.get? l = u.get? l) : Replays R goal t' u' := by
  intro l
  rw [ht l, hu l]
  exact h l

/-- The directories are those of the goal. -/
theorem Replays.directory (h : Replays R goal t u) (hl : goal.get? l = some .directory) :
    u.get? l = some .directory := by
  rcases h l with h | ⟨old, now, final, mode, mode', mode'', -, -, hfinal, -⟩
  · exact h.trans hl
  · rw [hl] at hfinal
    exact absurd hfinal (by simp)

/-- The files are at the same locations. -/
theorem Replays.file (h : Replays R goal t u) (hl : goal.IsFile l) : u.IsFile l := by
  rcases h l with h | ⟨old, now, final, mode, mode', mode'', -, hu, -⟩
  · obtain ⟨content, executable, hl⟩ := hl
    exact ⟨content, executable, h.trans hl⟩
  · exact ⟨now, mode', hu⟩

/-- The original may make directories that the repetition finds. -/
theorem Replays.keeps (h : Replays R goal t u) (hkeeps : ∀ l, Keeps l t t') :
    Replays R goal t' u := by
  intro l
  rcases h l with h | ⟨old, now, final, mode, mode', mode'', ht, hrest⟩
  · exact .inl h
  · exact .inr ⟨old, now, final, mode, mode', mode'', (hkeeps l).get?_eq ht, hrest⟩

/-- Both put a file at a location where the goal has one. -/
theorem Replays.put (h : Replays R goal t u) {old now final : ByteArray}
    {mode mode' mode'' : Bool} (ht : t.get? l ≠ some .directory)
    (hu : u.get? l ≠ some .directory) (hgoal : goal.get? l = some (.file final mode''))
    (hcontent : R l old now ∨ now = final) (hmode : mode' = mode ∨ mode' = mode'') :
    Replays R goal (t.put l (.file old mode)) (u.put l (.file now mode')) := by
  intro m
  by_cases hm : m = l
  · subst hm
    rw [get?_put_self _ ht, get?_put_self _ hu]
    exact .inr ⟨old, now, final, mode, mode', mode'', rfl, rfl, hgoal, hcontent, hmode⟩
  · rw [get?_put_of_ne _ hm, get?_put_of_ne _ hm]
    exact h m

/-- The mode of a file is that of the original or that of the goal. -/
theorem Replays.modeAfter (h : Replays R goal t u) {final : ByteArray} {mode'' : Bool}
    (hgoal : goal.get? l = some (.file final mode'')) :
    FileTree.modeAfter (u.get? l) = FileTree.modeAfter (t.get? l)
      ∨ FileTree.modeAfter (u.get? l) = mode'' := by
  rcases h l with h | ⟨old, now, final', mode, mode', other, ht, hu, hfinal, -, hmode⟩
  · rw [h, hgoal]
    exact .inr rfl
  · rw [hgoal] at hfinal
    cases hfinal
    rw [ht, hu]
    exact hmode

/-- What was written can be written again, with a content that `R` allows. -/
theorem Replays.write? (h : Replays R goal t u) {path : String} {old now : ByteArray}
    (hwrite : t.write? path old = some t') (hgrows : t'.GrowsTo goal)
    (hR : R (target path) old now) :
    ∃ u', u.write? path now = some u' ∧ Replays R goal t' u' := by
  obtain ⟨hlocate, hdir, mode, hput⟩ := write?_eq_some hwrite
  rw [write?_of_locate hlocate, if_neg hdir] at hwrite
  obtain rfl := Option.some.inj hwrite
  have hgrowth : t.GrowsTo goal := (growsTo_of_put hdir fun _ => rfl).trans hgrows
  have hgoal : goal.IsFile (target path) := hgrows.file ⟨_, _, get?_put_self _ hdir⟩
  have hlocate' : u.locate path = .ok (target path) :=
    locate_mono (fun l hl => h.directory (hgrowth.directory hl)) hlocate
  have hdir' := (h.file hgoal).ne_directory
  obtain ⟨final, mode'', hfinal⟩ := hgoal
  refine ⟨_, by rw [write?_of_locate hlocate', if_neg hdir'], ?_⟩
  exact h.put hdir hdir' hfinal (.inl hR) (h.modeAfter hfinal)

/-- A file that was made executable can be made so again. -/
theorem Replays.makeExecutable? (h : Replays R goal t u) {path : String}
    (hmake : t.makeExecutable? path = some t') (hgrows : t'.GrowsTo goal) :
    ∃ u', u.makeExecutable? path = some u' ∧ Replays R goal t' u' := by
  obtain ⟨hlocate, old, mode, hold, rfl⟩ := makeExecutable?_eq_some hmake
  have hdir : t.get? (target path) ≠ some .directory := by simp [hold]
  have hgrowth : t.GrowsTo goal := (growsTo_of_put hdir fun _ => rfl).trans hgrows
  have hgoal : goal.IsFile (target path) := hgrows.file ⟨_, _, get?_put_self _ hdir⟩
  have hlocate' : u.locate path = .ok (target path) :=
    locate_mono (fun l hl => h.directory (hgrowth.directory hl)) hlocate
  obtain ⟨now, mode', hnow⟩ := h.file hgoal
  obtain ⟨final, mode'', hfinal⟩ := hgoal
  have hmake' : u.makeExecutable? path = some (u.put (target path) (.file now true)) := by
    simp only [FileTree.makeExecutable?, hlocate', hnow]
  refine ⟨_, hmake', ?_⟩
  -- the content is what it was before, on both sides
  have hcontent : R (target path) old now ∨ now = final := by
    rcases h (target path) with hsame | ⟨old', now', final', _, _, _, ht, hu, hg, hcontent, -⟩
    · rw [hsame, hfinal] at hnow
      cases hnow
      exact .inr rfl
    · rw [hold] at ht
      rw [hnow] at hu
      rw [hfinal] at hg
      cases ht
      cases hu
      cases hg
      exact hcontent
  exact h.put hdir (by simp [hnow]) hfinal hcontent (.inl rfl)

end

end ClusterBoot.FileTree
