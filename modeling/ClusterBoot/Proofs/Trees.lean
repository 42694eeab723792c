/-
  ClusterBoot.Proofs.Trees
  ────────────────────────────────
  **WHAT CHANGES IN A FILE TREE.**

  A path that can be followed leads to its target (`locate_eq_target`), so an
  operation on files changes nothing but the target of its path.  What it
  leaves alone is said place by place: a tree `Keeps` a location of another
  one if what was there is still there, and nothing but a directory is new.
  A file stays readable at its path as long as the directories on the way
  stay (`read_join`).
-/
import ClusterBoot.Proofs.Paths

namespace ClusterBoot.FileTree

open ClusterBoot.Path (IsName isStep target descend root)

/-! ## §1. Single places. -/

private theorem lookup_cons_of_ne {l m : Location} {e : FileEntry}
    {ds : List (Location × FileEntry)} (h : l ≠ m) : ((m, e) :: ds).lookup l = ds.lookup l := by
  have hne : (l == m) = false := by simpa using h
  rw [List.lookup_cons, hne]

/-- What is at a location after something was put somewhere. -/
theorem get?_put (t : FileTree) (l : Location) (e : FileEntry) (l' : Location) :
    (t.put l e).get? l'
      = if isGiven l' then some .directory else if l' = l then some e else t.get? l' := by
  unfold get? put
  by_cases hgiven : isGiven l' = true
  · rw [if_pos hgiven, if_pos hgiven]
  · rw [if_neg hgiven, if_neg hgiven, if_neg hgiven]
    show ((l, e) :: t.entries.filter fun d => d.1 ≠ l).lookup l' = _
    by_cases hl : l' = l
    · rw [if_pos hl, hl, List.lookup_cons_self]
    · rw [if_neg hl, lookup_cons_of_ne hl]
      -- elsewhere the entries that are dropped are not seen: they are all at `l`
      induction t.entries with
      | nil => rfl
      | cons d ds ih =>
          obtain ⟨m, f⟩ := d
          by_cases hm : m = l
          · rw [List.filter_cons_of_neg (by simp [hm]), ih, lookup_cons_of_ne (hm ▸ hl)]
          · rw [List.filter_cons_of_pos (by simp [hm])]
            by_cases hlm : l' = m
            · rw [hlm, List.lookup_cons_self, List.lookup_cons_self]
            · rw [lookup_cons_of_ne hlm, lookup_cons_of_ne hlm, ih]

/-- Only directories always exist. -/
theorem isGiven_eq_false {t : FileTree} {l : Location} (h : t.get? l ≠ some .directory) :
    isGiven l = false := by
  cases hgiven : isGiven l with
  | false => rfl
  | true => exact absurd (by rw [get?, if_pos hgiven]) h

/-- What is elsewhere than where something is put. -/
theorem get?_put_of_ne {t : FileTree} {l l' : Location} (e : FileEntry) (h : l' ≠ l) :
    (t.put l e).get? l' = t.get? l' := by
  rw [get?_put, if_neg h]
  split
  next hgiven => rw [get?, if_pos hgiven]
  next => rfl

/-- The content and the mode of the file at a location; there may be none. -/
def fileAt (t : FileTree) (l : Location) : Option (ByteArray × Bool) :=
  match t.get? l with
  | some (.file content executable) => some (content, executable)
  | _ => none

/-- What is at a location is kept; at most a directory is made there. -/
def Keeps (l : Location) (t t' : FileTree) : Prop :=
  t'.get? l = t.get? l ∨ t.get? l = none ∧ t'.get? l = some .directory

theorem Keeps.refl (l : Location) (t : FileTree) : Keeps l t t := .inl rfl

theorem Keeps.trans {l : Location} {t t' t'' : FileTree} (h : Keeps l t t')
    (h' : Keeps l t' t'') : Keeps l t t'' := by
  unfold Keeps at *
  rcases h with h | ⟨h, hdir⟩
  · rw [← h]
    exact h'
  · rcases h' with h' | ⟨h', -⟩
    · exact .inr ⟨h, h'.trans hdir⟩
    · rw [hdir] at h'
      exact absurd h' (by simp)

/-- What was there still is. -/
theorem Keeps.get?_eq {l : Location} {t t' : FileTree} {e : FileEntry} (h : Keeps l t t')
    (he : t.get? l = some e) : t'.get? l = some e := by
  rcases h with h | ⟨h, -⟩
  · exact h.trans he
  · rw [h] at he
    exact absurd he (by simp)

/-- Files are as they were. -/
theorem Keeps.fileAt_eq {l : Location} {t t' : FileTree} (h : Keeps l t t') :
    t'.fileAt l = t.fileAt l := by
  unfold fileAt
  rcases h with h | ⟨h, h'⟩
  · rw [h]
  · rw [h, h']

/-- Putting something at one place keeps the others. -/
theorem keeps_put {t : FileTree} {l l' : Location} (e : FileEntry) (h : l' ≠ l) :
    Keeps l' t (t.put l e) :=
  .inl (get?_put_of_ne e h)

/-! ## §2. Following paths. -/

/-- Following pieces goes where their steps go. -/
theorem follow_eq {t : FileTree} {l l' : Location} {ps : List String}
    (h : t.follow l ps = .ok l') : l' = (ps.filter isStep).foldl descend l := by
  induction ps generalizing l with
  | nil => exact (Except.ok.inj h).symm
  | cons p ps ih =>
      unfold follow at h
      by_cases hidle : p = "" ∨ p = "."
      · rw [if_pos hidle] at h
        rw [List.filter_cons_of_neg (by rcases hidle with rfl | rfl <;> simp [isStep])]
        exact ih h
      · rw [if_neg hidle] at h
        rw [not_or] at hidle
        rw [List.filter_cons_of_pos (by simp [isStep, hidle]), List.foldl_cons, descend]
        by_cases hup : p = ".."
        · rw [if_pos hup] at h ⊢
          exact ih h
        -- a name too long is an obstacle; a directory is entered; anything else must be last
        · rw [if_neg hup] at h ⊢
          split at h
          · exact absurd h (by simp)
          · split at h
            · exact ih h
            all_goals
              split at h
              next hnil =>
                subst hnil
                exact (Except.ok.inj h).symm
              next => exact absurd h (by simp)

/-- A path that can be followed leads to its target. -/
theorem locate_eq_target {t : FileTree} {path : String} {l : Location}
    (h : t.locate path = .ok l) : l = target path := by
  unfold locate at h
  split at h
  · exact absurd h (by simp)
  · split at h
    · exact absurd h (by simp)
    · exact follow_eq h

/-- Follow pieces through directories only. -/
def enter (t : FileTree) (l : Location) : List String → Option Location
  | [] => some l
  | p :: ps =>
      if p = "" ∨ p = "." then t.enter l ps
      else if p = ".." then t.enter (up l) ps
      else if maxNameSize < p.utf8ByteSize ∨ t.get? (l ++ [p]) ≠ some .directory then none
      else t.enter (l ++ [p]) ps

/-- Entering pieces one after the other. -/
theorem enter_append (t : FileTree) (l : Location) (ps qs : List String) :
    t.enter l (ps ++ qs) = (t.enter l ps).bind fun m => t.enter m qs := by
  induction ps generalizing l with
  | nil => rfl
  | cons p ps ih =>
      rw [List.cons_append, enter, enter]
      split
      · exact ih l
      · split
        · exact ih _
        · split
          · rfl
          · exact ih _

/-- The name comes last in a path that it was joined to, and before it are
pieces that lead where those of the base do. -/
theorem pieces_join_enter (dir : String) {name : String} (hname : IsName name) (t : FileTree) :
    ∃ front, Text.pieces '/' (Path.join dir name) = front ++ [name]
      ∧ ∀ l, t.enter l front = t.enter l (Text.pieces '/' dir) := by
  rcases Path.pieces_join dir hname.notAbsolute with hp | ⟨hp, hlast⟩
  · exact ⟨_, by rw [hp, hname.pieces], fun _ => rfl⟩
  -- a base that ends in a slash has an empty last piece, which is not entered
  · obtain ⟨front, hfront⟩ := List.getLast?_eq_some_iff.1 hlast
    rw [hfront, List.dropLast_concat] at hp
    refine ⟨front, by rw [hp, hname.pieces], fun l => ?_⟩
    rw [hfront, enter_append]
    cases t.enter l front with
    | none => rfl
    | some m => simp [enter]

/-- The directory that a path leads to. -/
def directory? (t : FileTree) (path : String) : Option Location :=
  t.enter (root path) (Text.pieces '/' path)

/-- Pieces before a name are directories. -/
theorem follow_append_name {t : FileTree} {l l' : Location} {ps : List String} {name : String}
    (hname : IsName name) :
    t.follow l (ps ++ [name]) = .ok l'
      ↔ name.utf8ByteSize ≤ maxNameSize ∧ ∃ m, t.enter l ps = some m ∧ l' = m ++ [name] := by
  have hstep := hname.isStep
  simp only [isStep, Bool.and_eq_true, decide_eq_true_eq] at hstep
  have hidle : ¬ (name = "" ∨ name = ".") := by simp [hstep]
  induction ps generalizing l with
  | nil =>
      rw [List.nil_append, follow, if_neg hidle, if_neg hname.ne_up]
      by_cases hsize : maxNameSize < name.utf8ByteSize
      · rw [if_pos hsize]
        simp [Nat.not_le.2 hsize]
      · rw [if_neg hsize]
        -- the last name may be a file, a directory or nothing at all
        have hgoal : (Except.ok (l ++ [name]) : Except Obstacle Location) = .ok l'
            ↔ name.utf8ByteSize ≤ maxNameSize ∧ ∃ m, t.enter l [] = some m ∧ l' = m ++ [name] := by
          simp [enter, Nat.not_lt.1 hsize, eq_comm]
        split
        · rw [follow]
          exact hgoal
        · exact hgoal
        · exact hgoal
  | cons p ps ih =>
      rw [List.cons_append, follow, enter]
      split
      · exact ih
      · split
        · exact ih
        · by_cases hsize : maxNameSize < p.utf8ByteSize
          · simp [hsize]
          · rw [if_neg hsize]
            cases hget : t.get? (l ++ [p]) with
            | none => simp
            | some e =>
                cases e with
                | directory =>
                    -- a piece before the name is passed only if it is a directory
                    have hopen : ¬ (maxNameSize < p.utf8ByteSize
                        ∨ some FileEntry.directory ≠ some FileEntry.directory) := by simp [hsize]
                    rw [if_neg hopen]
                    exact ih
                | file content x => simp

/-- A directory in a directory. -/
theorem directory?_join {t : FileTree} {dir name : String} {l : Location} (hname : IsName name) :
    t.directory? (Path.join dir name) = some l
      ↔ name.utf8ByteSize ≤ maxNameSize ∧ ∃ m, t.directory? dir = some m
        ∧ l = m ++ [name] ∧ t.get? (m ++ [name]) = some .directory := by
  have hstep := hname.isStep
  simp only [isStep, Bool.and_eq_true, decide_eq_true_eq] at hstep
  have hlast : ∀ m, t.enter m [name] = some l ↔ name.utf8ByteSize ≤ maxNameSize
      ∧ l = m ++ [name] ∧ t.get? (m ++ [name]) = some .directory := by
    intro m
    rw [enter, if_neg (by simp [hstep]), if_neg hname.ne_up, enter]
    by_cases hsize : maxNameSize < name.utf8ByteSize
    · simp [hsize, Nat.not_le.2 hsize]
    · by_cases hdir : t.get? (m ++ [name]) = some .directory
      · simp [hsize, hdir, Nat.not_lt.1 hsize, eq_comm]
      · simp [hdir]
  obtain ⟨front, hpieces, hfront⟩ := pieces_join_enter dir hname t
  unfold directory?
  rw [Path.root_join hname.notAbsolute, hpieces, enter_append, hfront]
  cases t.enter (root dir) (Text.pieces '/' dir) with
  | none => simp
  | some m => simp [hlast]

/-- What a name leads to in a directory. -/
theorem locate_join {t : FileTree} {dir name : String} {l : Location} (hname : IsName name) :
    t.locate (Path.join dir name) = .ok l
      ↔ isUnusable (Path.join dir name) = false ∧ name.utf8ByteSize ≤ maxNameSize
        ∧ ∃ m, t.directory? dir = some m ∧ l = m ++ [name] := by
  obtain ⟨front, hpieces, hfront⟩ := pieces_join_enter dir hname t
  have hne : Path.join dir name ≠ "" := by
    intro h
    rw [h] at hpieces
    have hlast := congrArg List.getLast? hpieces
    rw [List.getLast?_concat] at hlast
    exact hname.ne_empty (Option.some.inj hlast).symm
  unfold locate
  rw [if_neg hne]
  cases hbad : isUnusable (Path.join dir name) with
  | true => simp
  | false =>
      show t.follow (root (Path.join dir name)) (Text.pieces '/' (Path.join dir name)) = _ ↔ _
      rw [Path.root_join hname.notAbsolute, hpieces, follow_append_name hname, hfront]
      simp [directory?]

/-- The directory that a path leads to is its target. -/
theorem directory?_eq_target {t : FileTree} {path : String} {l : Location}
    (h : t.directory? path = some l) : l = target path := by
  have key : ∀ (ps : List String) (m : Location),
      t.enter m ps = some l → l = (ps.filter isStep).foldl descend m := by
    intro ps
    induction ps with
    | nil => exact fun m h => (Option.some.inj h).symm
    | cons p ps ih =>
        intro m h
        rw [enter] at h
        by_cases hidle : p = "" ∨ p = "."
        · rw [if_pos hidle] at h
          rw [List.filter_cons_of_neg (by rcases hidle with rfl | rfl <;> simp [isStep])]
          exact ih m h
        · rw [if_neg hidle] at h
          rw [not_or] at hidle
          rw [List.filter_cons_of_pos (by simp [isStep, hidle]), List.foldl_cons, descend]
          split at h
          next hup => rw [if_pos hup]; exact ih _ h
          next hup =>
            rw [if_neg hup]
            split at h
            · exact absurd h (by simp)
            · exact ih _ h
  exact key _ _ h

/-! ## §3. Reading and writing. -/

/-- A file that was written is at the target of its path, where no directory
was, and keeps the mode of the file before it. -/
theorem write?_eq_some {t t' : FileTree} {path : String} {content : ByteArray}
    (h : t.write? path content = some t') :
    t.locate path = .ok (target path) ∧ t.get? (target path) ≠ some .directory
      ∧ ∃ executable, t' = t.put (target path) (.file content executable) := by
  unfold write? at h
  split at h
  next l hl =>
    obtain rfl := locate_eq_target hl
    split at h
    next => exact absurd h (by simp)
    next before executable hget =>
      exact ⟨hl, by simp [hget], executable, (Option.some.inj h).symm⟩
    next hget => exact ⟨hl, by simp [hget], false, (Option.some.inj h).symm⟩
  next => exact absurd h (by simp)

/-- Making a file executable changes its mode only. -/
theorem makeExecutable?_eq_some {t t' : FileTree} {path : String}
    (h : t.makeExecutable? path = some t') :
    t.locate path = .ok (target path) ∧ ∃ content executable,
      t.get? (target path) = some (.file content executable)
        ∧ t' = t.put (target path) (.file content true) := by
  unfold makeExecutable? at h
  split at h
  next l hl =>
    obtain rfl := locate_eq_target hl
    split at h
    next content executable hget =>
      exact ⟨hl, content, executable, hget, (Option.some.inj h).symm⟩
    next => exact absurd h (by simp)
  next => exact absurd h (by simp)

/-- Putting a file where no directory is leaves the directories. -/
theorem put_file_directory {t : FileTree} {l : Location} {content : ByteArray} {executable : Bool}
    (h : t.get? l ≠ some .directory) (m : Location) (hm : t.get? m = some .directory) :
    (t.put l (.file content executable)).get? m = some .directory := by
  have hne : m ≠ l := by
    intro heq
    subst heq
    exact h hm
  exact (keeps_put _ hne).get?_eq hm

theorem get?_put_self {t : FileTree} {l : Location} (e : FileEntry)
    (h : t.get? l ≠ some .directory) : (t.put l e).get? l = some e := by
  rw [get?_put, isGiven_eq_false h, if_neg (by simp), if_pos rfl]

/-- Pieces that lead to a file that is put somewhere lead there afterwards. -/
theorem follow_put_file {t : FileTree} {m l : Location} {ps : List String} {content : ByteArray}
    {executable : Bool} (h : t.follow m ps = .ok l) (hdir : t.get? l ≠ some .directory) :
    (t.put l (.file content executable)).follow m ps = .ok l := by
  induction ps generalizing m with
  | nil => exact h
  | cons p ps ih =>
      rw [follow] at h ⊢
      split at h
      next hidle => rw [if_pos hidle]; exact ih h
      next hidle =>
        rw [if_neg hidle]
        split at h
        next hup => rw [if_pos hup]; exact ih h
        next hup =>
          rw [if_neg hup]
          split at h
          next => exact absurd h (by simp)
          next hsize =>
            rw [if_neg hsize]
            split at h
            next hopen =>
              rw [put_file_directory hdir _ hopen]
              exact ih h
            all_goals
              split at h
              next hlast =>
                obtain rfl := Except.ok.inj h
                rw [get?_put_self _ hdir]
                exact if_pos hlast
              next => exact absurd h (by simp)

/-- A path leads to the file that is put at its target. -/
theorem locate_put_file {t : FileTree} {path : String} {content : ByteArray} {executable : Bool}
    (h : t.locate path = .ok (target path)) (hdir : t.get? (target path) ≠ some .directory) :
    (t.put (target path) (.file content executable)).locate path = .ok (target path) := by
  unfold locate at h ⊢
  split at h
  next => exact absurd h (by simp)
  next husable =>
    rw [if_neg husable]
    split at h
    next => exact absurd h (by simp)
    next hne =>
      rw [if_neg hne]
      exact follow_put_file h hdir

/-- A file that was just written can be made executable. -/
theorem makeExecutable?_of_write? {t t' : FileTree} {path : String} {content : ByteArray}
    (h : t.write? path content = some t') : (t'.makeExecutable? path).isSome = true := by
  obtain ⟨hfound, hdir, executable, rfl⟩ := write?_eq_some h
  rw [makeExecutable?, locate_put_file hfound hdir]
  simp [get?_put_self _ hdir]

/-- Making directories replaces nothing. -/
theorem keeps_makeDirsFrom (l' : Location) (t : FileTree) (l : Location) (ps : List String) :
    Keeps l' t (t.makeDirsFrom l ps).2 := by
  induction ps generalizing t l with
  | nil => exact .refl l' t
  | cons p ps ih =>
      rw [makeDirsFrom]
      split
      · exact ih t l
      · split
        · exact ih t _
        · split
          · exact .refl l' t
          · split
            next => exact ih t _
            next => exact .refl l' t
            next hget =>
              -- nothing was there, and a directory is made
              apply Keeps.trans _ (ih _ _)
              by_cases hl : l' = l ++ [p]
              · right
                rw [get?_put, if_pos hl, hl]
                exact ⟨hget, ite_self _⟩
              · exact keeps_put _ hl

/-- Making directories replaces nothing. -/
theorem keeps_makeDirs (l : Location) (t : FileTree) (path : String) :
    Keeps l t (t.makeDirs path).2 := by
  unfold makeDirs
  split
  · exact .refl l t
  · exact keeps_makeDirsFrom l t _ _

/-- Reading a file gives the content of the one at the target of its path. -/
theorem read_eq_ok {t : FileTree} {path : String} {content : ByteArray} :
    t.read path = .ok content
      ↔ t.locate path = .ok (target path)
        ∧ ∃ executable, t.get? (target path) = some (.file content executable) := by
  constructor
  · intro h
    unfold read at h
    split at h
    next l hl =>
      obtain rfl := locate_eq_target hl
      split at h
      next found executable hget =>
        obtain rfl := Except.ok.inj h
        exact ⟨hl, executable, hget⟩
      all_goals exact absurd h (by simp)
    next => exact absurd h (by simp)
  · intro h
    obtain ⟨hl, executable, hget⟩ := h
    simp [read, hl, hget]

/-- What was written can be read. -/
theorem read_of_write? {t t' : FileTree} {path : String} {content : ByteArray}
    (h : t.write? path content = some t') : t'.read path = .ok content := by
  obtain ⟨hfound, hdir, executable, rfl⟩ := write?_eq_some h
  exact read_eq_ok.2 ⟨locate_put_file hfound hdir, executable, get?_put_self _ hdir⟩

/-! ## §4. Files two directories below another. -/

/-- There is a file with the name `name` in the directory `sub` of the directory
`dir` of `base`, and its path is a usable one. -/
structure Stored (t : FileTree) (base dir sub name : String) : Prop where
  /-- The path. -/
  usable : isUnusable (Path.join (Path.join (Path.join base dir) sub) name) = false
  /-- The names. -/
  sizes : dir.utf8ByteSize ≤ maxNameSize ∧ sub.utf8ByteSize ≤ maxNameSize
    ∧ name.utf8ByteSize ≤ maxNameSize
  /-- The first directory. -/
  outer : t.get? (target base ++ [dir]) = some .directory
  /-- The second one. -/
  inner : t.get? (target base ++ [dir, sub]) = some .directory
  /-- The file. -/
  file : (t.fileAt (target base ++ [dir, sub, name])).isSome = true

section
variable {t : FileTree} {base dir sub name : String}

theorem target_join₃ (hdir : IsName dir) (hsub : IsName sub) (hname : IsName name) :
    target (Path.join (Path.join (Path.join base dir) sub) name)
      = target base ++ [dir, sub, name] := by
  rw [Path.target_join hname, Path.target_join hsub, Path.target_join hdir]
  simp

/-- A file that can be read is stored. -/
theorem stored_of_read {content : ByteArray} (hdir : IsName dir) (hsub : IsName sub)
    (hname : IsName name)
    (h : t.read (Path.join (Path.join (Path.join base dir) sub) name) = .ok content) :
    t.Stored base dir sub name := by
  obtain ⟨hfound, executable, hget⟩ := read_eq_ok.1 h
  obtain ⟨husable, hsize, m, hm, -⟩ := (locate_join hname).1 hfound
  obtain ⟨hsubSize, m', hm', rfl, hinner⟩ := (directory?_join hsub).1 hm
  obtain ⟨hdirSize, m'', hm'', rfl, houter⟩ := (directory?_join hdir).1 hm'
  obtain rfl := directory?_eq_target hm''
  rw [target_join₃ hdir hsub hname] at hget
  refine ⟨husable, ⟨hdirSize, hsubSize, hsize⟩, houter, by simpa using hinner, ?_⟩
  rw [fileAt, hget]
  rfl

/-- A stored file can be read as long as its base can be reached. -/
theorem Stored.read (h : t.Stored base dir sub name) (hdir : IsName dir) (hsub : IsName sub)
    (hname : IsName name) (hbase : t.directory? base = some (target base)) :
    ∃ content, t.read (Path.join (Path.join (Path.join base dir) sub) name) = .ok content
      ∧ ∃ executable, t.fileAt (target base ++ [dir, sub, name]) = some (content, executable) := by
  have hinner : t.get? (target base ++ [dir] ++ [sub]) = some .directory := by
    rw [List.append_assoc]
    exact h.inner
  have hfound : t.locate (Path.join (Path.join (Path.join base dir) sub) name)
      = .ok (target base ++ [dir, sub, name]) := by
    refine (locate_join hname).2 ⟨h.usable, h.sizes.2.2, _, (directory?_join hsub).2
      ⟨h.sizes.2.1, _, (directory?_join hdir).2 ⟨h.sizes.1, _, hbase, rfl, h.outer⟩, rfl,
        hinner⟩, by simp⟩
  obtain ⟨⟨content, executable⟩, hfile⟩ := Option.isSome_iff_exists.1 h.file
  have hget : t.get? (target base ++ [dir, sub, name]) = some (.file content executable) := by
    unfold fileAt at hfile
    split at hfile
    next hget =>
      obtain ⟨rfl, rfl⟩ := Prod.mk.inj (Option.some.inj hfile)
      exact hget
    next => exact absurd hfile (by simp)
  refine ⟨content, read_eq_ok.2 ?_, executable, hfile⟩
  rw [target_join₃ hdir hsub hname]
  exact ⟨hfound, executable, hget⟩

end

end ClusterBoot.FileTree
