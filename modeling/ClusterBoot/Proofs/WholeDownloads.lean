/-
  ClusterBoot.Proofs.WholeDownloads
  ────────────────────────────────
  **A DOWNLOAD ARRIVES AS A WHOLE OR NOT AT ALL.**

  A body is received in a file beside its destination.  Whatever goes wrong,
  that file is removed again, and the destination only changes when the
  complete body takes its place (`download_ends`).  What a path leads to is
  said by `FileTree.find?`: removing or placing a file at one location shows at
  the paths that lead there and at no others (`SameBut.find?_eq`).  So each of
  several downloads is whole or leaves no trace (`download_whole`), and after
  all of them a destination holds the body of the last one that succeeded
  (`transfers_whole`).
-/
import ClusterBoot.Proofs.AlikeTrees

namespace ClusterBoot

open ClusterBoot.Path (IsName isStep target root)

/-! ## §1. What a path leads to. -/

namespace FileTree

/-- What a path leads to; nothing if it cannot be followed. -/
def find? (t : FileTree) (path : String) : Option FileEntry :=
  match t.locate path with
  | .ok l => t.get? l
  | .error _ => none

theorem find?_eq_some {t : FileTree} {path : String} {e : FileEntry} :
    t.find? path = some e ↔ t.locate path = .ok (target path) ∧ t.get? (target path) = some e := by
  unfold find?
  cases hl : t.locate path with
  | error obstacle => simp
  | ok l =>
      obtain rfl := locate_eq_target hl
      simp

theorem find?_of_get?_eq_none {t : FileTree} {path : String} (h : t.get? (target path) = none) :
    t.find? path = none := by
  rw [Option.eq_none_iff_forall_ne_some]
  intro e he
  exact absurd (find?_eq_some.1 he).2 (by simp [h])

/-- A file can be read exactly if the path leads to it. -/
theorem read_eq_ok_iff {t : FileTree} {path : String} {content : ByteArray} :
    t.read path = .ok content ↔ ∃ executable, t.find? path = some (.file content executable) := by
  simp only [read_eq_ok, find?_eq_some]
  exact exists_and_left.symm

/-- Two trees are the same but for a location where neither has a directory, and
for what is below it. -/
structure SameBut (m : Location) (t t' : FileTree) : Prop where
  /-- There is no directory in the first tree. -/
  before : t.get? m ≠ some .directory
  /-- There is none in the second. -/
  after : t'.get? m ≠ some .directory
  /-- The same is everywhere else. -/
  elsewhere : ∀ l, ¬ m <+: l → t'.get? l = t.get? l

section
variable {m : Location} {t t' : FileTree}

theorem SameBut.symm (h : SameBut m t t') : SameBut m t' t :=
  ⟨h.after, h.before, fun l hl => (h.elsewhere l hl).symm⟩

/-- What always exists is not below a place without a directory. -/
theorem SameBut.not_prefix_given (h : SameBut m t t') {l : Location} (hl : isGiven l = true) :
    ¬ m <+: l := by
  intro hbelow
  have hgiven : isGiven m = true := by
    simp only [isGiven, Bool.or_eq_true, decide_eq_true_eq] at hl ⊢
    rcases hl with hups | rfl
    · exact .inl (List.all_eq_true.2 fun x hx => List.all_eq_true.1 hups x (hbelow.subset hx))
    -- below the root of absolute paths there is the empty location alone
    · cases m with
      | nil => exact .inl rfl
      | cons x xs =>
          obtain ⟨rfl, hrest⟩ := List.cons_prefix_cons.1 hbelow
          rw [List.prefix_nil.1 hrest]
          exact .inr rfl
  rw [isGiven_eq_false h.before] at hgiven
  exact absurd hgiven (by simp)

/-- A path does not come below such a place by going up. -/
theorem SameBut.not_prefix_up (h : SameBut m t t') {l : Location} (hl : ¬ m <+: l) :
    ¬ m <+: up l := by
  unfold up
  split
  · exact hl
  · split
    next hups =>
      apply h.not_prefix_given
      have hups' : ∀ x ∈ l, x = ".." := by simpa using hups
      simpa [isGiven] using .inl hups'
    next => exact fun hbelow => hl (hbelow.trans (List.dropLast_prefix l))

/-- Nor by entering a directory. -/
theorem SameBut.not_prefix_enter (h : SameBut m t t') {l : Location} {p : String} (hl : ¬ m <+: l)
    (hdir : t.get? (l ++ [p]) = some .directory) : ¬ m <+: l ++ [p] := by
  intro hbelow
  rcases List.prefix_concat_iff.1 hbelow with rfl | hbelow
  · exact h.before hdir
  · exact hl hbelow

/-- Pieces lead to the same place in both trees, and never below the one where
they differ. -/
theorem SameBut.follow (h : SameBut m t t') {l r : Location} {ps : List String}
    (hl : ¬ m <+: l) (hfollow : t.follow l ps = .ok r) :
    t'.follow l ps = .ok r ∧ (r = m ∨ ¬ m <+: r) := by
  induction ps generalizing l with
  | nil =>
      obtain rfl := Except.ok.inj hfollow
      exact ⟨rfl, .inr hl⟩
  | cons p ps ih =>
      by_cases hidle : p = "" ∨ p = "."
      · rw [FileTree.follow, if_pos hidle] at hfollow ⊢
        exact ih hl hfollow
      by_cases hup : p = ".."
      · rw [FileTree.follow, if_neg hidle, if_pos hup] at hfollow ⊢
        exact ih (h.not_prefix_up hl) hfollow
      by_cases hsize : maxNameSize < p.utf8ByteSize
      · rw [FileTree.follow, if_neg hidle, if_neg hup, if_pos hsize] at hfollow
        exact absurd hfollow (by simp)
      by_cases hdir : t.get? (l ++ [p]) = some .directory
      · have hinside := h.not_prefix_enter hl hdir
        have hdir' : t'.get? (l ++ [p]) = some .directory := (h.elsewhere _ hinside).trans hdir
        rw [FileTree.follow, if_neg hidle, if_neg hup, if_neg hsize, hdir] at hfollow
        rw [FileTree.follow, if_neg hidle, if_neg hup, if_neg hsize, hdir']
        exact ih hinside hfollow
      -- the path ends here; what is there may differ, but it is no directory in either tree
      · obtain ⟨rfl, rfl⟩ := (follow_cons_of_ne_directory hidle hup hsize hdir).1 hfollow
        by_cases hm : l ++ [p] = m
        · have hdir' : t'.get? (l ++ [p]) ≠ some .directory := hm ▸ h.after
          exact ⟨(follow_cons_of_ne_directory hidle hup hsize hdir').2 ⟨rfl, rfl⟩, .inl hm⟩
        · have hother : ¬ m <+: l ++ [p] := fun hbelow =>
            (List.prefix_concat_iff.1 hbelow).elim (fun heq => hm heq.symm) hl
          have hdir' : t'.get? (l ++ [p]) ≠ some .directory := h.elsewhere _ hother ▸ hdir
          exact ⟨(follow_cons_of_ne_directory hidle hup hsize hdir').2 ⟨rfl, rfl⟩, .inr hother⟩

/-- A path leads to the same place in both trees. -/
theorem SameBut.locate (h : SameBut m t t') {path : String}
    (hlocate : t.locate path = .ok (target path)) :
    t'.locate path = .ok (target path) ∧ (target path = m ∨ ¬ m <+: target path) := by
  have hroot : ¬ m <+: (startOf path).1 := by
    apply h.not_prefix_given
    show isGiven (if Path.isAbsolute path then ["/"] else []) = true
    split <;> rfl
  unfold FileTree.locate at hlocate ⊢
  split at hlocate
  next => exact absurd hlocate (by simp)
  next husable =>
    rw [if_neg husable]
    split at hlocate
    next => exact absurd hlocate (by simp)
    next hne =>
      rw [if_neg hne]
      exact h.follow hroot hlocate

/-- **A path that leads elsewhere leads to the same in both trees.** -/
theorem SameBut.find?_eq (h : SameBut m t t') {path : String} (hpath : target path ≠ m) :
    t'.find? path = t.find? path := by
  have hone : ∀ {u u' : FileTree} {e : FileEntry}, SameBut m u u' → u.find? path = some e →
      u'.find? path = some e := by
    intro u u' e hu he
    obtain ⟨hlocate, hget⟩ := find?_eq_some.1 he
    obtain ⟨hlocate', hplace⟩ := hu.locate hlocate
    exact find?_eq_some.2 ⟨hlocate', (hu.elsewhere _ (hplace.resolve_left hpath)).trans hget⟩
  ext e
  exact ⟨hone h.symm, hone h⟩

end

/-- A file that is put where no directory is shows there only. -/
theorem sameBut_put {t : FileTree} {m : Location} (content : ByteArray) (executable : Bool)
    (h : t.get? m ≠ some .directory) : SameBut m t (t.put m (.file content executable)) where
  before := h
  after := by
    rw [get?_put_self _ h]
    simp
  elsewhere l hl := get?_put_of_ne _ fun heq => hl (heq ▸ List.prefix_refl _)

/-- A file that was renamed takes the place of what was no directory. -/
theorem rename?_eq_some {t t' : FileTree} {source path : String}
    (h : t.rename? source path = some t') (hne : target source ≠ target path) :
    t.locate path = .ok (target path) ∧ t.get? (target path) ≠ some .directory
      ∧ ∃ content executable, t.get? (target source) = some (.file content executable)
        ∧ t' = (t.erase (target source)).put (target path) (.file content executable) := by
  unfold rename? at h
  split at h
  next s l hs hl =>
    obtain rfl := locate_eq_target hs
    obtain rfl := locate_eq_target hl
    split at h
    next => exact absurd h (by simp)
    next content executable hget hplace =>
      rw [if_neg hne] at h
      exact ⟨hl, hplace, content, executable, hget, (Option.some.inj h).symm⟩
    next => exact absurd h (by simp)
  next => exact absurd h (by simp)

end FileTree

/-! ## §2. The file that a download is received in. -/

namespace FileTree

/-- Only the pieces that move matter on the way to a directory. -/
theorem enter_filter (t : FileTree) (l : Location) (ps : List String) :
    t.enter l (ps.filter isStep) = t.enter l ps := by
  induction ps generalizing l with
  | nil => rfl
  | cons p ps ih =>
      by_cases hidle : p = "" ∨ p = "."
      · rw [List.filter_cons_of_neg (by rcases hidle with rfl | rfl <;> simp [isStep]), enter,
          if_pos hidle, ih]
      · have hstep : isStep p = true := by simpa [isStep] using hidle
        simp only [List.filter_cons_of_pos hstep, enter, ih]

/-- Paths with the same steps lead to the same directory. -/
theorem directory?_of_steps {t : FileTree} {path other : String}
    (hsteps : Path.steps path = Path.steps other) (hroot : root path = root other) :
    t.directory? path = t.directory? other := by
  unfold Path.steps at hsteps
  unfold directory?
  rw [← enter_filter, hsteps, enter_filter, hroot]

theorem isUnusable_eq_false {path : String} :
    isUnusable path = false ↔ '\x00' ∉ path.toList ∧ path.utf8ByteSize < maxPathSize := by
  simp [isUnusable]

end FileTree

namespace Path

open FileTree (isUnusable isUnusable_eq_false)

/-- A path whose last component is the name of a file. -/
def NamesFile (path : String) : Prop :=
  ∃ dir name, IsName name ∧ path = join dir name

/-- A mark behind a path is one behind its name. -/
theorem join_part (dir : String) {name : String} (h : IsName name) :
    join dir name ++ ".part" = join dir (name ++ ".part") := by
  rw [join_of_relative h.notAbsolute, join_of_relative (isName_part h).notAbsolute]
  split <;> simp only [String.append_assoc]

/-- What a download is received in is the file with the same name and a mark
behind it. -/
theorem NamesFile.target_partOf {path : String} (h : NamesFile path) :
    target (partOf path) = target (path ++ ".part") := by
  obtain ⟨dir, name, hname, rfl⟩ := h
  have hpart := isName_part hname
  rw [join_part dir hname, target_partOf_join hname hpart, target_join hpart]

/-- It is not the destination. -/
theorem NamesFile.target_partOf_ne {path : String} (h : NamesFile path) :
    target (partOf path) ≠ target path := by
  obtain ⟨dir, name, hname, rfl⟩ := h
  rw [target_partOf_join hname (isName_part hname), target_join hname]
  intro heq
  have hnames := congrArg String.length (List.cons.inj (List.append_cancel_left heq)).1
  rw [String.length_append] at hnames
  exact absurd (show ".part".length = 0 by omega) (by decide)

/-- Its path is not longer than the one with the mark. -/
theorem NamesFile.isUnusable_partOf {path : String} (h : NamesFile path)
    (husable : isUnusable (path ++ ".part") = false) : isUnusable (partOf path) = false := by
  obtain ⟨dir, name, hname, rfl⟩ := h
  obtain ⟨parent, gap, hparent, htext, hgap⟩ := parent_text dir hname
  rw [partOf_join hname hparent, join_of_relative (isName_part hname).notAbsolute]
  rw [htext] at husable
  simp only [isUnusable_eq_false, String.toList_append, String.utf8ByteSize_append,
    List.mem_append, not_or] at husable ⊢
  split
  · simp only [String.toList_append, String.utf8ByteSize_append, List.mem_append, not_or]
    exact ⟨⟨husable.1.1.1.1, husable.1.1.2, husable.1.2⟩, by omega⟩
  next hslash =>
    -- the slash that is put in between stands in the gap
    have hmem : '/' ∈ gap.toList := (hgap.resolve_left (mt .inl hslash)).resolve_left (mt .inr hslash)
    have hsize : gap.utf8ByteSize ≠ 0 := by
      rw [Ne, String.utf8ByteSize_eq_zero_iff]
      rintro rfl
      exact absurd hmem (by simp)
    simp only [String.toList_append, String.utf8ByteSize_append, List.mem_append, not_or]
    have hone : "/".utf8ByteSize = 1 := by decide
    exact ⟨⟨⟨husable.1.1.1.1, by decide⟩, husable.1.1.2, husable.1.2⟩, by omega⟩

end Path

/-- Where the path with the mark leads to, the other one leads as well. -/
theorem FileTree.find?_partOf {t : FileTree} {path : String} {e : FileEntry}
    (h : Path.NamesFile path) (he : t.find? (path ++ ".part") = some e) :
    t.find? (Path.partOf path) = some e := by
  obtain ⟨hlocate, hget⟩ := find?_eq_some.1 he
  rw [find?_eq_some, h.target_partOf]
  refine ⟨?_, hget⟩
  rw [← h.target_partOf] at hlocate ⊢
  have husable := h.isUnusable_partOf
  obtain ⟨dir, name, hname, rfl⟩ := h
  obtain ⟨parent, hparent, hsteps, hroot⟩ := Path.parent_join dir hname
  have hpart := Path.isName_part hname
  rw [Path.join_part dir hname] at hlocate husable
  rw [Path.partOf_join hname hparent] at hlocate husable ⊢
  obtain ⟨hgood, hsize, m, hm, hplace⟩ := (locate_join hpart).1 hlocate
  exact (locate_join hpart).2 ⟨husable hgood, hsize, m, directory?_of_steps hsteps hroot ▸ hm, hplace⟩

/-! ## §3. One download. -/

namespace Http

/-- The web delivers a body: the last answer, wherever the first one pointed to, is
the file, and all of it arrives. -/
def Delivers (web : Web) (url : String) (body : ByteArray) : Prop :=
  ∃ response, (request web url).response = some response ∧ isSuccess response.status = true
    ∧ response.complete = true ∧ response.body = body

/-- How a download ends. -/
inductive Ends (web : Web) (url path : String) (tree : FileTree) :
    Except DownloadFailure Unit × FileTree → Prop where
  /-- There is no answer. -/
  | unanswered : Ends web url path tree (.error (.request url), tree)
  /-- The answer is not the file. -/
  | refused (code : Nat) : Ends web url path tree (.error (.status url code), tree)
  /-- Nothing can be received. -/
  | unreceived
      (hpart : ∀ content executable, tree.find? (Path.partOf path)
        ≠ some (.file content executable)) :
      Ends web url path tree (.error (.write path), tree)
  /-- What was received is thrown away. -/
  | dropped {cleared : FileTree}
      (hcleared : FileTree.SameBut (target (Path.partOf path)) tree cleared)
      (hpart : cleared.get? (target (Path.partOf path)) = none) :
      Ends web url path tree (.error (.write path), cleared)
  /-- What was received takes its place. -/
  | stored {cleared : FileTree} {body : ByteArray} (executable : Bool)
      (hbody : Delivers web url body)
      (hcleared : FileTree.SameBut (target (Path.partOf path)) tree cleared)
      (hpart : cleared.get? (target (Path.partOf path)) = none)
      (hlocate : cleared.locate path = .ok (target path))
      (hplace : cleared.get? (target path) ≠ some .directory) :
      Ends web url path tree (.ok (), cleared.put (target path) (.file body executable))

section
variable {t t' : FileTree} {part : String}

/-- Nothing is thrown away where no file is. -/
theorem discard_of_none (h : ∀ content executable, t.find? part ≠ some (.file content executable)) :
    discard part t = t := by
  have hremove : t.removeFile? part = none := by
    unfold FileTree.removeFile?
    split
    next l hl =>
      obtain rfl := FileTree.locate_eq_target hl
      split
      next content executable hget =>
        exact absurd (FileTree.find?_eq_some.2 ⟨hl, hget⟩) (h content executable)
      next => rfl
    next => rfl
  rw [discard, hremove]
  rfl

/-- What cannot be written to is no file. -/
theorem find?_of_write?_eq_none {content : ByteArray} (h : t.write? part content = none)
    (old : ByteArray) (executable : Bool) : t.find? part ≠ some (.file old executable) := by
  intro hfound
  obtain ⟨hlocate, hget⟩ := FileTree.find?_eq_some.1 hfound
  unfold FileTree.write? at h
  simp [hlocate, hget] at h

/-- Once the file that was received is gone, the tree is the same as before. -/
theorem sameBut_received {content : ByteArray} (h : t.write? part content = some t') :
    FileTree.SameBut (target part) t (t'.erase (target part))
      ∧ (t'.erase (target part)).get? (target part) = none := by
  obtain ⟨-, hplace, executable, rfl⟩ := FileTree.write?_eq_some h
  have hgone : ((t.put (target part) (.file content executable)).erase (target part)).get?
      (target part) = none := by
    rw [FileTree.get?_erase_below _ (List.prefix_refl _),
      if_neg (by simp [FileTree.isGiven_eq_false hplace])]
  refine ⟨⟨hplace, by simp [hgone], fun l hl => ?_⟩, hgone⟩
  have hne : l ≠ target part := fun heq => hl (heq ▸ List.prefix_refl l)
  rw [FileTree.get?_erase _ hl, FileTree.get?_put_of_ne _ hne]

/-- What was received can be thrown away. -/
theorem discard_received {content : ByteArray} (h : t.write? part content = some t') :
    discard part t' = t'.erase (target part) := by
  obtain ⟨hlocate, hplace, executable, rfl⟩ := FileTree.write?_eq_some h
  have hsame := FileTree.sameBut_put content executable hplace
  have hremove : (t.put (target part) (.file content executable)).removeFile? part
      = some ((t.put (target part) (.file content executable)).erase (target part)) := by
    unfold FileTree.removeFile?
    simp [(hsame.locate hlocate).1, FileTree.get?_put_self _ hplace]
  rw [discard, hremove]
  rfl

end

/-- What was received and renamed is where it should be, and the tree is the same
as before but for the file that it was received in. -/
theorem ends_renamed {web : Web} {url path : String} {tree received stored : FileTree}
    {body : ByteArray} (h : Path.NamesFile path) (hbody : Delivers web url body)
    (hwrite : tree.write? (Path.partOf path) body = some received)
    (hrename : received.rename? (Path.partOf path) path = some stored) :
    Ends web url path tree (.ok (), stored) := by
  obtain ⟨hcleared, hgone⟩ := sameBut_received hwrite
  obtain ⟨hlocate, hplace, content, executable, hget, rfl⟩ :=
    FileTree.rename?_eq_some hrename h.target_partOf_ne
  obtain ⟨-, hpart, mode, rfl⟩ := FileTree.write?_eq_some hwrite
  -- what is renamed is the body
  rw [FileTree.get?_put_self _ hpart] at hget
  obtain ⟨rfl, rfl⟩ := FileEntry.file.inj (Option.some.inj hget)
  have hreceived := FileTree.sameBut_put body mode hpart
  obtain ⟨hbefore, hapart⟩ := hreceived.symm.locate hlocate
  have houtside := hapart.resolve_left h.target_partOf_ne.symm
  refine .stored mode hbody hcleared hgone (hcleared.locate hbefore).1 ?_
  rwa [hcleared.elsewhere _ houtside, ← hreceived.elsewhere _ houtside]

/-- The answer that is the file is stored, or nothing is. -/
theorem store_ends {web : Web} {url path : String} {response : Response} (h : Path.NamesFile path)
    (hbody : response.complete = true → Delivers web url response.body) (tree : FileTree) :
    Ends web url path tree (store response path tree) := by
  unfold store
  simp only
  cases hwrite : tree.write? (Path.partOf path) response.body with
  | none =>
      have hpart := find?_of_write?_eq_none hwrite
      rw [discard_of_none hpart]
      exact .unreceived hpart
  | some received =>
      obtain ⟨hcleared, hgone⟩ := sameBut_received hwrite
      simp only
      split
      next stored hstored =>
        split at hstored
        next hcomplete => exact ends_renamed h (hbody hcomplete) hwrite hstored
        next => exact absurd hstored (by simp)
      next =>
        rw [discard_received hwrite]
        exact .dropped hcleared hgone

/-- **A download ends in one of five ways.** -/
theorem download_ends (web : Web) (url : String) {path : String} (h : Path.NamesFile path)
    (tree : FileTree) : Ends web url path tree (download web url path tree) := by
  unfold download
  split
  next => exact .unanswered
  next response hresponse =>
    split
    next hstatus =>
      exact store_ends h (fun hcomplete => ⟨response, hresponse, hstatus, hcomplete, rfl⟩) tree
    next => exact .refused _

/-- What a download from the web does to a file tree. -/
structure WholeOrNothing (web : Web) (url path : String) (before : FileTree)
    (answer : Except DownloadFailure Unit) (after : FileTree) : Prop where
  /-- If it succeeds, the complete body is at the destination, and nothing is left
  beside it. -/
  stored : answer = .ok () →
    (∃ body, Delivers web url body ∧ after.read path = .ok body)
      ∧ after.find? (path ++ ".part") = none
  /-- If it fails, the destination is as it was. -/
  kept : ∀ failure, answer = .error failure → after.find? path = before.find? path
  /-- Unless it fails while it writes, everything is as it was. -/
  refused : ∀ failure, answer = .error failure → failure ≠ .write path → after = before
  /-- It has no other failures than these. -/
  failures : ∀ failure, answer = .error failure →
    failure = .request url ∨ (∃ code, failure = .status url code) ∨ failure = .write path
  /-- If it fails while it writes, no file is left beside the destination. -/
  cleaned : answer = .error (.write path) → ∀ content executable,
    after.find? (path ++ ".part") ≠ some (.file content executable)
  /-- Whatever comes of it, what other paths lead to stays. -/
  elsewhere : ∀ other, target other ≠ target path → target other ≠ target (path ++ ".part") →
    after.find? other = before.find? other

/-- What is to be shown of a download that fails. -/
theorem whole_of_error {web : Web} {url path : String} {before after : FileTree}
    {failure : DownloadFailure} (h : Path.NamesFile path)
    (hfailure : failure = .request url ∨ (∃ code, failure = .status url code)
      ∨ failure = .write path)
    (hrefused : failure ≠ .write path → after = before)
    (hsame : ∀ other, target other ≠ target (Path.partOf path) →
      after.find? other = before.find? other)
    (hcleaned : failure = .write path → ∀ content executable,
      after.find? (Path.partOf path) ≠ some (.file content executable)) :
    WholeOrNothing web url path before (.error failure) after where
  stored hok := nomatch hok
  kept _ _ := hsame path h.target_partOf_ne.symm
  refused other herror hother := by
    obtain rfl := Except.error.inj herror
    exact hrefused hother
  failures other herror := by
    obtain rfl := Except.error.inj herror
    exact hfailure
  cleaned herror content executable hfound :=
    hcleaned (Except.error.inj herror) content executable (FileTree.find?_partOf h hfound)
  elsewhere other _ hother := hsame other fun heq => hother (heq.trans h.target_partOf)

/-- **A download arrives as a whole or not at all.** -/
theorem download_whole (web : Web) (url : String) {path : String} (h : Path.NamesFile path)
    (tree : FileTree) :
    WholeOrNothing web url path tree (download web url path tree).1
      (download web url path tree).2 := by
  have hends := download_ends web url h tree
  generalize download web url path tree = result at hends ⊢
  cases hends with
  | unanswered => exact whole_of_error h (.inl rfl) (fun _ => rfl) (fun _ _ => rfl) (by simp)
  | refused code =>
      exact whole_of_error h (.inr (.inl ⟨code, rfl⟩)) (fun _ => rfl) (fun _ _ => rfl) (by simp)
  | unreceived hpart =>
      exact whole_of_error h (.inr (.inr rfl)) (fun _ => rfl) (fun _ _ => rfl) fun _ => hpart
  | @dropped cleared hcleared hpart =>
      refine whole_of_error h (.inr (.inr rfl)) (fun hother => absurd rfl hother)
        (fun other hother => hcleared.find?_eq hother) fun _ content executable => ?_
      simp [FileTree.find?_of_get?_eq_none hpart]
  | @stored cleared body executable hbody hcleared hpart hlocate hplace =>
      have hstored := FileTree.sameBut_put body executable hplace
      refine {
        stored := fun _ => ⟨⟨body, hbody, ?_⟩, ?_⟩
        kept := fun _ herror => nomatch herror
        refused := fun _ herror => nomatch herror
        failures := fun _ herror => nomatch herror
        cleaned := fun herror => nomatch herror
        elsewhere := fun other hpath hother => ?_ }
      · refine FileTree.read_eq_ok.2 ⟨(hstored.locate hlocate).1, executable, ?_⟩
        exact FileTree.get?_put_self _ hplace
      · have hmark := h.target_partOf
        have hne := h.target_partOf_ne
        rw [hmark] at hpart hne
        rw [hstored.find?_eq hne]
        exact FileTree.find?_of_get?_eq_none hpart
      · rw [h.target_partOf] at hcleared
        rw [hstored.find?_eq hpath, hcleared.find?_eq hother]

/-! ## §4. Several downloads. -/

/-- A download: what the web answers while it runs, the URL, and the destination. -/
structure Transfer where
  /-- The answers. -/
  web : Web
  /-- The URL. -/
  url : String
  /-- The destination. -/
  path : String

/-- What comes of a download, and the files after it. -/
def Transfer.run (r : Transfer) (tree : FileTree) : Except DownloadFailure Unit × FileTree :=
  download r.web r.url r.path tree

/-- Download one file after the other. -/
def transfers : List Transfer → FileTree → List (Except DownloadFailure Unit) × FileTree
  | [], tree => ([], tree)
  | r :: rs, tree =>
      let rest := transfers rs (r.run tree).2
      ((r.run tree).1 :: rest.1, rest.2)

/-- The files after so many downloads. -/
def treeAt (rs : List Transfer) (tree : FileTree) (i : Nat) : FileTree :=
  (transfers (rs.take i) tree).2

/-- The download at a position succeeds. -/
def Arrives (rs : List Transfer) (tree : FileTree) (i : Nat) : Prop :=
  (transfers rs tree).1[i]? = some (.ok ())

/-- No destination is the file that another download is received in. -/
def Apart (rs : List Transfer) : Prop :=
  ∀ r ∈ rs, ∀ s ∈ rs, target r.path ≠ target (s.path ++ ".part")

section Run

variable {rs : List Transfer} {tree : FileTree}

theorem length_transfers : (transfers rs tree).1.length = rs.length := by
  induction rs generalizing tree with
  | nil => rfl
  | cons r rs ih =>
      show (transfers rs (r.run tree).2).1.length + 1 = _
      rw [ih, List.length_cons]

theorem transfer_at (i : Nat) :
    (transfers rs tree).1[i]? = rs[i]?.map fun r => (r.run (treeAt rs tree i)).1 := by
  induction rs generalizing tree i with
  | nil => rfl
  | cons r rs ih =>
      cases i with
      | zero => rfl
      | succ i => exact @ih (r.run tree).2 i

theorem treeAt_succ {r : Transfer} {i : Nat} (h : rs[i]? = some r) :
    treeAt rs tree (i + 1) = (r.run (treeAt rs tree i)).2 := by
  induction rs generalizing tree i with
  | nil => exact absurd h (by simp)
  | cons first rs ih =>
      cases i with
      | zero =>
          obtain rfl := Option.some.inj h
          simp [treeAt, transfers]
      | succ i => exact @ih (first.run tree).2 i h

theorem treeAt_length : treeAt rs tree rs.length = (transfers rs tree).2 := by
  rw [treeAt, List.take_length]

/-- What a path leads to stays as long as no step of a run changes it. -/
theorem find?_treeAt {path : String} {i j : Nat} (hij : i ≤ j) (hj : j ≤ rs.length)
    (hstep : ∀ k r, i ≤ k → k < j → rs[k]? = some r →
      (r.run (treeAt rs tree k)).2.find? path = (treeAt rs tree k).find? path) :
    (treeAt rs tree j).find? path = (treeAt rs tree i).find? path := by
  induction hij with
  | refl => rfl
  | @step j hij ih =>
      have hbefore := ih (Nat.le_of_succ_le hj) fun k r hk hkj => hstep k r hk (Nat.lt_succ_of_lt hkj)
      have hr : rs[j]? = some rs[j] := List.getElem?_eq_getElem hj
      rw [treeAt_succ hr, hstep j _ hij (Nat.lt_succ_self j) hr, hbefore]

/-- **One download leaves the destination of another alone**, and its own if it
fails. -/
theorem find?_run {r s : Transfer} (hs : Path.NamesFile s.path)
    (hsame : target r.path = target s.path → r.path = s.path)
    (hapart : target r.path ≠ target (s.path ++ ".part")) {t : FileTree}
    (hfails : s.path = r.path → (s.run t).1 ≠ .ok ()) :
    (s.run t).2.find? r.path = t.find? r.path := by
  have hwhole := download_whole s.web s.url hs t
  by_cases hpath : target r.path = target s.path
  · have heq := hsame hpath
    cases hanswer : (s.run t).1 with
    | ok => exact absurd hanswer (hfails heq.symm)
    | error failure =>
        rw [heq]
        exact hwhole.kept failure hanswer
  · exact hwhole.elsewhere r.path hpath hapart

end Run

/-- What a run of downloads does to a file tree. -/
structure TransfersWhole (rs : List Transfer) (tree : FileTree) : Prop where
  /-- Every download ends. -/
  answered : (transfers rs tree).1.length = rs.length
  /-- Each of them arrives as a whole or not at all, whatever came before it. -/
  each : ∀ (i : Nat) (r : Transfer), rs[i]? = some r →
    ∃ answer, (transfers rs tree).1[i]? = some answer
      ∧ WholeOrNothing r.web r.url r.path (treeAt rs tree i) answer (treeAt rs tree (i + 1))
  /-- In the end a destination holds the body of the last download to it that
  succeeded. -/
  last : Apart rs → ∀ (i : Nat) (r : Transfer), rs[i]? = some r → Arrives rs tree i →
    (∀ (j : Nat) (s : Transfer), i < j → rs[j]? = some s → s.path = r.path → ¬ Arrives rs tree j) →
    ∃ body, Delivers r.web r.url body ∧ (transfers rs tree).2.read r.path = .ok body
  /-- If none did, the destination is as it was at the start. -/
  never : Apart rs → ∀ r ∈ rs,
    (∀ (j : Nat) (s : Transfer), rs[j]? = some s → s.path = r.path → ¬ Arrives rs tree j) →
    (transfers rs tree).2.find? r.path = tree.find? r.path

/-- **A run of downloads is whole**, whatever the web answers and whatever the files
are. -/
theorem transfers_whole (rs : List Transfer) (tree : FileTree)
    (hnames : ∀ r ∈ rs, Path.NamesFile r.path)
    (hsame : ∀ r ∈ rs, ∀ s ∈ rs, target r.path = target s.path → r.path = s.path) :
    TransfersWhole rs tree := by
  have heach : ∀ (i : Nat) (r : Transfer), rs[i]? = some r →
      WholeOrNothing r.web r.url r.path (treeAt rs tree i) (r.run (treeAt rs tree i)).1
        (treeAt rs tree (i + 1)) := by
    intro i r hi
    rw [treeAt_succ hi]
    exact download_whole r.web r.url (hnames r (List.mem_of_getElem? hi)) _
  -- without a success at its destination, what a download stored or found there stays
  have hkept : Apart rs → ∀ r ∈ rs, ∀ i ≤ rs.length,
      (∀ (j : Nat) (s : Transfer), i ≤ j → rs[j]? = some s → s.path = r.path →
        ¬ Arrives rs tree j) →
      (transfers rs tree).2.find? r.path = (treeAt rs tree i).find? r.path := by
    intro hapart r hr i hi hfails
    rw [← treeAt_length]
    refine find?_treeAt hi le_rfl fun k s hik hk hs => ?_
    have hmem := List.mem_of_getElem? hs
    refine find?_run (hnames s hmem) (hsame r hr s hmem) (hapart r hr s hmem) fun heq hok => ?_
    refine hfails k s hik hs heq ?_
    rw [Arrives, transfer_at, hs, Option.map_some, hok]
  refine {
    answered := length_transfers
    each := fun i r hi => ⟨_, by rw [transfer_at, hi]; rfl, heach i r hi⟩
    last := fun hapart i r hi harrives hlater => ?_
    never := fun hapart r hr hfails => ?_ }
  · have hok : (r.run (treeAt rs tree i)).1 = .ok () := by
      rw [Arrives, transfer_at, hi] at harrives
      exact Option.some.inj harrives
    obtain ⟨body, hbody, hread⟩ := ((heach i r hi).stored hok).1
    obtain ⟨executable, hfound⟩ := FileTree.read_eq_ok_iff.1 hread
    have hlength : i + 1 ≤ rs.length := (List.getElem?_eq_some_iff.1 hi).1
    have hend := hkept hapart r (List.mem_of_getElem? hi) (i + 1) hlength hlater
    exact ⟨body, hbody, FileTree.read_eq_ok_iff.2 ⟨executable, hend.trans hfound⟩⟩
  · exact hkept hapart r hr 0 (Nat.zero_le _) fun j s _ => hfails j s

/-- A body that breaks off, one that is complete, and an answer that is no file, in
turn for the same destination. -/
def threeTransfers : List Transfer :=
  let answer (status : Nat) (body : String) (complete : Bool) : Web :=
    fun _ => some ⟨status, body.toUTF8, complete, none⟩
  [⟨answer 200 "bro" false, "https://get.rke2.io", "install/rke2"⟩,
    ⟨answer 200 "broken no more" true, "https://get.rke2.io", "install/rke2"⟩,
    ⟨answer 404 "not found" true, "https://get.rke2.io", "install/rke2"⟩]

/-- The second of them stays. -/
theorem transfers_whole_three :
    TransfersWhole threeTransfers ⟨[(["install"], .directory)]⟩
      ∧ (transfers threeTransfers ⟨[(["install"], .directory)]⟩).2.read "install/rke2"
        = .ok "broken no more".toUTF8 := by
  have hpath : ∀ r ∈ threeTransfers, r.path = "install/rke2" := by
    simp [threeTransfers]
  refine ⟨transfers_whole threeTransfers _ (fun r hr => ?_) fun r hr s hs _ => ?_, ?_⟩
  · exact ⟨"install", "rke2", by decide, hpath r hr⟩
  · exact (hpath r hr).trans (hpath s hs).symm
  · decide +kernel

end Http

end ClusterBoot
