/-
  ClusterBoot.Proofs.AlikeTrees
  ────────────────────────────────
  **FILE TREES THAT DIFFER ONLY WHERE THEY MAY.**

  A `Difference` says how two trees may differ from each other, place by
  place.  As far as directories go they may not differ, because paths are
  followed through directories: so a path leads to the same place in both
  (`Alike.locate`).  An operation on files whose places are public, or that
  replaces what may differ by what may differ, succeeds in both trees or in
  neither and keeps them alike.
-/
import ClusterBoot.Proofs.Downloads
import Mathlib.Data.List.Infix

namespace ClusterBoot

open ClusterBoot.Path (steps root descend target)

namespace FileTree

/-! ## §1. Differences. -/

/-- How two trees may differ: what may be at a location of the one and of the
other. -/
structure Difference where
  /-- What may be there. -/
  permits : Location → Option FileEntry → Option FileEntry → Prop
  /-- The same may be in both. -/
  same : ∀ l e, permits l e e
  /-- Directories are at the same locations. -/
  directory : ∀ {l e e'}, permits l e e' → (e = some .directory ↔ e' = some .directory)

/-- Two trees differ in no other way. -/
def Alike (D : Difference) (t t' : FileTree) : Prop :=
  ∀ l, D.permits l (t.get? l) (t'.get? l)

/-- Nothing may differ at a location. -/
def Difference.Public (D : Difference) (l : Location) : Prop :=
  ∀ e e', D.permits l e e' → e' = e

/-- Whether there is something at a location may not differ. -/
def Difference.Passable (D : Difference) (l : Location) : Prop :=
  ∀ e e', D.permits l e e' → (e = none ↔ e' = none)

section
variable {D : Difference} {t t' : FileTree}

theorem Alike.directory (h : Alike D t t') (l : Location) :
    t.get? l = some .directory ↔ t'.get? l = some .directory :=
  D.directory (h l)

theorem Alike.get?_eq (h : Alike D t t') {l : Location} (hl : D.Public l) :
    t'.get? l = t.get? l :=
  hl _ _ (h l)

/-- Trees stay alike if what is put into them may differ. -/
theorem Alike.put (h : Alike D t t') {l : Location} {e e' : FileEntry}
    (he : D.permits l (some e) (some e')) : Alike D (t.put l e) (t'.put l e') := by
  intro l'
  rw [get?_put, get?_put]
  split
  · exact D.same l' _
  · split
    next hl =>
      rw [hl]
      exact he
    next => exact h l'

/-- What is at or below a place that was erased. -/
theorem get?_erase_below (t : FileTree) {l l' : Location} (h : l <+: l') :
    (t.erase l).get? l' = if isGiven l' then some .directory else none := by
  unfold get? erase
  split
  · rfl
  · rw [List.lookup_eq_none_iff]
    intro d hd
    -- an entry that is left is not below `l`, so it is elsewhere
    have hleft : l.isPrefixOf d.1 = false := by simpa using (List.mem_filter.1 hd).2
    rw [bne_iff_ne]
    intro heq
    rw [← heq, List.isPrefixOf_iff_prefix.2 h] at hleft
    exact absurd hleft (by simp)

/-- Trees stay alike if the same place is erased in both. -/
theorem Alike.erase (h : Alike D t t') (l : Location) : Alike D (t.erase l) (t'.erase l) := by
  intro l'
  by_cases hbelow : l <+: l'
  · rw [get?_erase_below t hbelow, get?_erase_below t' hbelow]
    exact D.same l' _
  · rw [get?_erase t hbelow, get?_erase t' hbelow]
    exact h l'

/-! ## §2. Following paths. -/

/-- A step that enters no directory is the last one. -/
theorem follow_cons_of_ne_directory {l m : Location} {p : String} {ps : List String}
    (hidle : ¬ (p = "" ∨ p = ".")) (hup : p ≠ "..") (hsize : ¬ maxNameSize < p.utf8ByteSize)
    (hdir : t.get? (l ++ [p]) ≠ some .directory) :
    t.follow l (p :: ps) = .ok m ↔ ps = [] ∧ l ++ [p] = m := by
  rw [follow, if_neg hidle, if_neg hup, if_neg hsize]
  cases hget : t.get? (l ++ [p]) with
  | none => by_cases hlast : ps = [] <;> simp [hlast]
  | some e =>
      cases e with
      | directory => exact absurd hget hdir
      | file content executable => by_cases hlast : ps = [] <;> simp [hlast]

/-- Pieces lead to the same place in trees that are alike. -/
theorem Alike.follow (h : Alike D t t') {l m : Location} {ps : List String} :
    t.follow l ps = .ok m ↔ t'.follow l ps = .ok m := by
  induction ps generalizing l with
  | nil => rfl
  | cons p ps ih =>
      by_cases hidle : p = "" ∨ p = "."
      · rw [FileTree.follow, FileTree.follow, if_pos hidle, if_pos hidle]
        exact ih
      by_cases hup : p = ".."
      · rw [FileTree.follow, FileTree.follow, if_neg hidle, if_neg hidle, if_pos hup, if_pos hup]
        exact ih
      by_cases hsize : maxNameSize < p.utf8ByteSize
      · rw [FileTree.follow, FileTree.follow, if_neg hidle, if_neg hidle, if_neg hup, if_neg hup,
          if_pos hsize, if_pos hsize]
      by_cases hdir : t.get? (l ++ [p]) = some .directory
      · rw [FileTree.follow, FileTree.follow, if_neg hidle, if_neg hidle, if_neg hup, if_neg hup,
          if_neg hsize, if_neg hsize, hdir, (h.directory _).1 hdir]
        exact ih
      · have hdir' := mt (h.directory _).2 hdir
        rw [follow_cons_of_ne_directory hidle hup hsize hdir,
          follow_cons_of_ne_directory hidle hup hsize hdir']

/-- A path leads to its target in both trees, or nowhere in both. -/
theorem Alike.locate (h : Alike D t t') (path : String) :
    t.locate path = .ok (target path) ∧ t'.locate path = .ok (target path)
      ∨ (∃ o, t.locate path = .error o) ∧ ∃ o, t'.locate path = .error o := by
  have hsame : ∀ l, t.locate path = .ok l ↔ t'.locate path = .ok l := by
    intro l
    unfold FileTree.locate
    split
    · rfl
    · split
      · rfl
      · exact h.follow
  cases hl : t.locate path with
  | ok l =>
      obtain rfl := locate_eq_target hl
      exact .inl ⟨rfl, (hsame _).1 hl⟩
  | error o =>
      cases hl' : t'.locate path with
      | ok l =>
          rw [(hsame l).2 hl'] at hl
          exact absurd hl (by simp)
      | error o' => exact .inr ⟨⟨o, rfl⟩, o', rfl⟩

/-! ## §3. Operations on files. -/

/-- The mode that a file gets where there may be one already. -/
def modeAfter : Option FileEntry → Bool
  | some (.file _ executable) => executable
  | _ => false

/-- Writing replaces the content at the target of the path, if no directory is
there. -/
theorem write?_of_locate {path : String} {content : ByteArray} {l : Location}
    (h : t.locate path = .ok l) :
    t.write? path content = if t.get? l = some .directory then none
      else some (t.put l (.file content (modeAfter (t.get? l)))) := by
  rw [write?, h]
  cases hget : t.get? l with
  | none => simp [hget, modeAfter]
  | some e => cases e <;> simp [hget, modeAfter]

/-- What may differ can be written. -/
theorem Alike.write? (h : Alike D t t') {path : String} {content content' : ByteArray}
    (hfile : ∀ e e', D.permits (target path) e e' →
      D.permits (target path) (some (.file content (modeAfter e)))
        (some (.file content' (modeAfter e')))) :
    Option.Rel (Alike D) (t.write? path content) (t'.write? path content') := by
  rcases h.locate path with ⟨hl, hl'⟩ | ⟨⟨o, ho⟩, o', ho'⟩
  · rw [write?_of_locate hl, write?_of_locate hl']
    by_cases hdir : t.get? (target path) = some .directory
    · rw [if_pos hdir, if_pos ((h.directory _).1 hdir)]
      exact .none
    · rw [if_neg hdir, if_neg (mt (h.directory _).2 hdir)]
      exact .some (h.put (hfile _ _ (h _)))
  · rw [FileTree.write?, FileTree.write?, ho, ho']
    exact .none

/-- The same can be written where nothing may differ. -/
theorem Difference.Public.file {l : Location} (hl : D.Public l) (content : ByteArray)
    (e e' : Option FileEntry) (h : D.permits l e e') :
    D.permits l (some (.file content (modeAfter e))) (some (.file content (modeAfter e'))) := by
  rw [hl e e' h]
  exact D.same l _

theorem Alike.makeExecutable? (h : Alike D t t') {path : String} (hpath : D.Public (target path)) :
    Option.Rel (Alike D) (t.makeExecutable? path) (t'.makeExecutable? path) := by
  unfold FileTree.makeExecutable?
  rcases h.locate path with ⟨hl, hl'⟩ | ⟨⟨o, ho⟩, o', ho'⟩
  · simp only [hl, hl', h.get?_eq hpath]
    split
    · exact .some (h.put (D.same _ _))
    · exact .none
  · simp only [ho, ho']
    exact .none

theorem Alike.removeFile? (h : Alike D t t') {path : String} (hpath : D.Public (target path)) :
    Option.Rel (Alike D) (t.removeFile? path) (t'.removeFile? path) := by
  unfold FileTree.removeFile?
  rcases h.locate path with ⟨hl, hl'⟩ | ⟨⟨o, ho⟩, o', ho'⟩
  · simp only [hl, hl', h.get?_eq hpath]
    split
    · exact .some (h.erase _)
    · exact .none
  · simp only [ho, ho']
    exact .none

theorem Alike.rename? (h : Alike D t t') {source path : String}
    (hsource : D.Public (target source)) (hpath : D.Public (target path)) :
    Option.Rel (Alike D) (t.rename? source path) (t'.rename? source path) := by
  unfold FileTree.rename?
  rcases h.locate source with ⟨hs, hs'⟩ | ⟨⟨o, ho⟩, o', ho'⟩
  · rcases h.locate path with ⟨hl, hl'⟩ | ⟨⟨o, ho⟩, o', ho'⟩
    · simp only [hs, hs', hl, hl', h.get?_eq hsource, h.get?_eq hpath]
      split
      · exact .none
      · split
        · exact .some h
        · exact .some ((h.erase _).put (D.same _ _))
      · exact .none
    · simp only [hs, hs', ho, ho']
      exact .none
  · simp only [ho, ho']
    exact .none

/-! ## §4. Making directories. -/

/-- Directories are made alike if they are made where no file can be in one of
the trees only. -/
theorem Alike.makeDirsFrom (h : Alike D t t') {l : Location} {ps : List String}
    (hway : ∀ front, front <+: ps.filter Path.isStep → D.Passable (front.foldl descend l)) :
    (t'.makeDirsFrom l ps).1 = (t.makeDirsFrom l ps).1
      ∧ Alike D (t.makeDirsFrom l ps).2 (t'.makeDirsFrom l ps).2 := by
  induction ps generalizing t t' l with
  | nil => exact ⟨rfl, h⟩
  | cons p ps ih =>
      rw [FileTree.makeDirsFrom, FileTree.makeDirsFrom]
      by_cases hidle : p = "" ∨ p = "."
      · rw [if_pos hidle, if_pos hidle]
        rw [List.filter_cons_of_neg (by rcases hidle with rfl | rfl <;> simp [Path.isStep])] at hway
        exact ih h hway
      rw [if_neg hidle, if_neg hidle]
      rw [not_or] at hidle
      rw [List.filter_cons_of_pos (by simp [Path.isStep, hidle])] at hway
      have hnext : ∀ front, front <+: ps.filter Path.isStep →
          D.Passable (front.foldl descend (descend l p)) := fun front hfront =>
        hway (p :: front) (List.cons_prefix_cons.2 ⟨rfl, hfront⟩)
      by_cases hup : p = ".."
      · rw [if_pos hup, if_pos hup]
        rw [descend, if_pos hup] at hnext
        exact ih h hnext
      rw [if_neg hup, if_neg hup]
      rw [descend, if_neg hup] at hnext
      by_cases hsize : maxNameSize < p.utf8ByteSize
      · rw [if_pos hsize, if_pos hsize]
        exact ⟨rfl, h⟩
      rw [if_neg hsize, if_neg hsize]
      have hdirectory := h.directory (l ++ [p])
      have hpresent := hnext [] List.nil_prefix _ _ (h _)
      rw [List.foldl_nil] at hpresent
      cases hget : t.get? (l ++ [p]) with
      | none =>
          rw [hpresent.1 hget]
          exact ih (h.put (D.same _ _)) hnext
      | some e =>
          cases e with
          | directory =>
              rw [hdirectory.1 hget]
              exact ih h hnext
          | file content executable =>
              -- a file in one tree is a file in the other, though maybe not the same one
              cases hget' : t'.get? (l ++ [p]) with
              | none => exact absurd (hpresent.2 hget') (by simp [hget])
              | some e' =>
                  cases e' with
                  | directory => exact absurd (hdirectory.2 hget') (by simp [hget])
                  | file content' executable' => exact ⟨rfl, h⟩

end

end FileTree

namespace Path

/-- A location that a path passes: one that its first steps lead to. -/
def Passes (path : String) (l : Location) : Prop :=
  ∃ front, front <+: steps path ∧ l = front.foldl descend (root path)

instance (path : String) (l : Location) : Decidable (Passes path l) :=
  decidable_of_iff (∃ front ∈ (steps path).inits, l = front.foldl descend (root path))
    (by simp only [List.mem_inits, Passes])

/-- With a name more a path passes one location more. -/
theorem passes_join {dir name : String} {l : Location} (hname : IsName name) :
    Passes (join dir name) l ↔ l = target dir ++ [name] ∨ Passes dir l := by
  unfold Passes
  rw [steps_join hname.notAbsolute, root_join hname.notAbsolute, hname.steps]
  have hlast : (steps dir ++ [name]).foldl descend (root dir) = target dir ++ [name] := by
    rw [List.foldl_append]
    exact if_neg hname.ne_up
  constructor
  · rintro ⟨front, hfront, rfl⟩
    rcases List.prefix_concat_iff.1 hfront with rfl | hfront
    · exact .inl hlast
    · exact .inr ⟨front, hfront, rfl⟩
  · rintro (rfl | ⟨front, hfront, rfl⟩)
    · exact ⟨_, List.prefix_refl _, hlast.symm⟩
    · exact ⟨front, hfront.trans (List.prefix_append _ _), rfl⟩

/-- What is left of a path without its last name passes the same locations as
what the name was joined to. -/
theorem parent_join_passes (dir : String) {name : String} (h : IsName name) :
    ∃ parent, parent? (join dir name) = some parent ∧ ∀ l, Passes parent l ↔ Passes dir l := by
  obtain ⟨parent, hparent, hsteps, hroot⟩ := parent_join dir h
  refine ⟨parent, hparent, fun l => ?_⟩
  rw [Passes, Passes, hsteps, hroot]

end Path

namespace FileTree

/-- Directories are made alike if the path passes no place where there is a
file in one of the trees only. -/
theorem Alike.makeDirs {D : Difference} {t t' : FileTree} (h : Alike D t t') {path : String}
    (hway : ∀ l, Path.Passes path l → D.Passable l) :
    (t'.makeDirs path).1 = (t.makeDirs path).1
      ∧ Alike D (t.makeDirs path).2 (t'.makeDirs path).2 := by
  unfold FileTree.makeDirs
  split
  · exact ⟨rfl, h⟩
  · exact h.makeDirsFrom fun front hfront => hway _ ⟨front, hfront, rfl⟩

end FileTree

/-! ## §5. Downloaders. -/

/-- What a downloader does depends on the files at its path and beside it and
on where directories are, and on nothing else. -/
def Downloader.Blind (d : Downloader) : Prop :=
  ∀ (D : FileTree.Difference) earlier url path t t', FileTree.Alike D t t' →
    D.Public (target path) → D.Public (target (Path.partOf path)) →
    (d.fetch earlier url path t').1 = (d.fetch earlier url path t).1
      ∧ FileTree.Alike D (d.fetch earlier url path t).2 (d.fetch earlier url path t').2

/-- A rehearsal looks at no file. -/
theorem Downloader.rehearsal_blind (failOn : Option String) :
    (Downloader.rehearsal failOn).Blind := by
  intro D earlier url path t t' h hpath _
  rw [rehearsal_fetch, rehearsal_fetch]
  split
  · exact ⟨rfl, h⟩
  · have hwrite := h.write? (hpath.file url.toUTF8)
    generalize t.write? path url.toUTF8 = x, t'.write? path url.toUTF8 = x' at hwrite
    cases hwrite with
    | none => exact ⟨rfl, h⟩
    | some hstored => exact ⟨rfl, hstored⟩

namespace Http

open FileTree

variable {D : Difference} {t t' : FileTree} {path : String}

theorem discard_alike (h : Alike D t t') (hpart : D.Public (target (Path.partOf path))) :
    Alike D (discard (Path.partOf path) t) (discard (Path.partOf path) t') := by
  unfold discard
  have hremove := h.removeFile? hpart
  generalize t.removeFile? (Path.partOf path) = x, t'.removeFile? (Path.partOf path) = x'
    at hremove
  cases hremove with
  | none => exact h
  | some hremoved => exact hremoved

/-- An answer is stored alike: received beside the path, and renamed if it is whole. -/
theorem store_alike (h : Alike D t t') (hpath : D.Public (target path))
    (hpart : D.Public (target (Path.partOf path))) (response : Response) :
    (store response path t').1 = (store response path t).1
      ∧ Alike D (store response path t).2 (store response path t').2 := by
  unfold store
  simp only
  have hwrite := h.write? (hpart.file response.body)
  generalize t.write? (Path.partOf path) response.body = x,
    t'.write? (Path.partOf path) response.body = x' at hwrite
  cases hwrite with
  | none =>
      dsimp only
      exact ⟨rfl, discard_alike h hpart⟩
  | @some received received' hreceived =>
      dsimp only
      cases response.complete with
      | false =>
          rw [if_neg (by simp), if_neg (by simp)]
          dsimp only
          exact ⟨rfl, discard_alike hreceived hpart⟩
      | true =>
          rw [if_pos rfl, if_pos rfl]
          have hrename := hreceived.rename? hpart hpath
          generalize received.rename? (Path.partOf path) path = y,
            received'.rename? (Path.partOf path) path = y' at hrename
          cases hrename with
          | none =>
              dsimp only
              exact ⟨rfl, discard_alike hreceived hpart⟩
          | some hstored =>
              dsimp only
              exact ⟨rfl, hstored⟩

/-- Nor does a download from the web, but for the file that it is received
in. -/
theorem downloader_blind (web : Web) : (downloader web).Blind := by
  intro D earlier url path t t' h hpath hpart
  show (download web url path t').1 = (download web url path t).1
    ∧ Alike D (download web url path t).2 (download web url path t').2
  unfold download
  split
  · exact ⟨rfl, h⟩
  next response _ =>
    split
    · exact store_alike h hpath hpart response
    · exact ⟨rfl, h⟩

end Http

end ClusterBoot
