/-
  ClusterBoot.Proofs.Downloads
  ────────────────────────────────
  **WHERE A DOWNLOAD CAN CHANGE FILES.**

  A downloader is confined if it stays at the path that it stores at and at
  the file beside it.  Both the rehearsal (`rehearsal_confined`) and the
  downloader for the web (`downloader_confined`) are.
-/
import ClusterBoot.Http
import ClusterBoot.Proofs.Trees
import ClusterBoot.Rehearsal

namespace ClusterBoot

open ClusterBoot.Path (target)

/-! ## §1. What operations on files leave alone. -/

namespace FileTree

/-- Writing changes nothing but the target. -/
theorem get?_write? {t t' : FileTree} {path : String} {content : ByteArray} {l : Location}
    (h : t.write? path content = some t') (hl : l ≠ target path) : t'.get? l = t.get? l := by
  obtain ⟨-, -, executable, rfl⟩ := write?_eq_some h
  exact get?_put_of_ne _ hl

/-- What is not below the place that is erased stays. -/
theorem get?_erase (t : FileTree) {l l' : Location} (h : ¬ l <+: l') :
    (t.erase l).get? l' = t.get? l' := by
  unfold get? erase
  split
  · rfl
  · induction t.entries with
    | nil => rfl
    | cons d ds ih =>
        obtain ⟨m, e⟩ := d
        by_cases hm : l' = m
        · subst hm
          -- the entry is at the location itself, which is not below `l`, so it is kept
          have hbelow : l.isPrefixOf l' = false :=
            Bool.eq_false_iff.2 fun hp => h (List.isPrefixOf_iff_prefix.1 hp)
          rw [List.filter_cons_of_pos (by simp [hbelow])]
          simp
        · have hne : (l' == m) = false := by simpa using hm
          by_cases hbelow : l.isPrefixOf m = true
          · rw [List.filter_cons_of_neg (by simp [hbelow]), ih]
            rw [List.lookup_cons, hne]
          · rw [List.filter_cons_of_pos (by simp [hbelow])]
            rw [List.lookup_cons, List.lookup_cons, hne]
            exact ih

/-- Removing a file changes nothing but its place and what is below. -/
theorem get?_removeFile? {t t' : FileTree} {path : String} {l : Location}
    (h : t.removeFile? path = some t') (hl : ¬ target path <+: l) : t'.get? l = t.get? l := by
  unfold removeFile? at h
  split at h
  next m hm =>
    obtain rfl := locate_eq_target hm
    split at h
    next =>
      obtain rfl := Option.some.inj h
      exact get?_erase t hl
    next => exact absurd h (by simp)
  next => exact absurd h (by simp)

/-- Renaming a file changes nothing but its places and what is below. -/
theorem get?_rename? {t t' : FileTree} {source path : String} {l : Location}
    (h : t.rename? source path = some t') (hsource : ¬ target source <+: l)
    (hpath : ¬ target path <+: l) : t'.get? l = t.get? l := by
  unfold rename? at h
  split at h
  next s m hs hm =>
    obtain rfl := locate_eq_target hs
    obtain rfl := locate_eq_target hm
    split at h
    next => exact absurd h (by simp)
    next content executable _ =>
      split at h
      -- a file renamed to itself changes nothing; otherwise the source is erased
      · rw [Option.some.inj h]
      · obtain rfl := Option.some.inj h
        have hne : l ≠ target path := fun heq => hpath (heq ▸ List.prefix_refl l)
        rw [get?_put_of_ne _ hne, get?_erase t hsource]
    next => exact absurd h (by simp)
  next => exact absurd h (by simp)

end FileTree

/-! ## §2. Confined downloaders. -/

/-- Whatever comes of a download, it changes nothing but the place that it
stores at and the file beside it, and what is below them. -/
def Downloader.Confined (d : Downloader) : Prop :=
  ∀ earlier url path tree l, ¬ target path <+: l → ¬ target (Path.partOf path) <+: l →
    (d.fetch earlier url path tree).2.get? l = tree.get? l

/-- A rehearsal fails, or stores the URL. -/
theorem Downloader.rehearsal_fetch (failOn : Option String) (earlier : List String)
    (url path : String) (tree : FileTree) :
    (Downloader.rehearsal failOn).fetch earlier url path tree
      = if rehearsalFails failOn url then (.error (.status url 404), tree)
        else (tree.write? path url.toUTF8).elim (.error (.write path), tree)
          fun stored => (.ok (), stored) := by
  cases hwrite : tree.write? path url.toUTF8 with
  | none => simp only [Downloader.rehearsal, hwrite, Option.elim_none]
  | some stored => simp only [Downloader.rehearsal, hwrite, Option.elim_some]

/-- A rehearsal writes at its destination only. -/
theorem Downloader.rehearsal_confined (failOn : Option String) :
    (Downloader.rehearsal failOn).Confined := by
  intro earlier url path tree l hpath _
  have hne : l ≠ target path := fun heq => hpath (heq ▸ List.prefix_refl l)
  rw [rehearsal_fetch]
  split
  · rfl
  · cases hwrite : tree.write? path url.toUTF8 with
    | none => rfl
    | some stored => exact FileTree.get?_write? hwrite hne

/-- A download from the web is received beside its destination, and is moved
there when it is complete. -/
theorem Http.downloader_confined (web : Http.Web) : (Http.downloader web).Confined := by
  intro earlier url path tree l hpath hpart
  have hne : l ≠ target (Path.partOf path) := fun heq => hpart (heq ▸ List.prefix_refl l)
  -- what was received so far is thrown away if anything goes wrong
  have hdiscard : ∀ t : FileTree, (Http.discard (Path.partOf path) t).get? l = t.get? l := by
    intro t
    unfold Http.discard
    cases hremove : t.removeFile? (Path.partOf path) with
    | none => rfl
    | some t' => exact FileTree.get?_removeFile? hremove hpart
  show (Http.download web url path tree).2.get? l = _
  unfold Http.download
  split
  next => rfl
  next response _ =>
    split
    · unfold Http.store
      simp only
      cases hwrite : tree.write? (Path.partOf path) response.body with
      | none => exact hdiscard tree
      | some received =>
          simp only
          split
          next stored hstored =>
            split at hstored
            · rw [FileTree.get?_rename? hstored hpart hpath, FileTree.get?_write? hwrite hne]
            · exact absurd hstored (by simp)
          next => rw [hdiscard, FileTree.get?_write? hwrite hne]
    · rfl

/-! ## §3. Exact downloaders. -/

/-- A download that succeeds stores a file at its destination and changes
nothing else. -/
def Downloader.Exact (d : Downloader) : Prop :=
  ∀ earlier url path tree tree', d.fetch earlier url path tree = (.ok (), tree') →
    (∃ content, tree'.read path = .ok content)
      ∧ ∀ l, l ≠ target path → tree'.get? l = tree.get? l

/-- A rehearsal that succeeds stores the URL. -/
theorem Downloader.rehearsal_exact (failOn : Option String) :
    (Downloader.rehearsal failOn).Exact := by
  intro earlier url path tree tree' h
  rw [rehearsal_fetch] at h
  split at h
  · cases h
  · cases hwrite : tree.write? path url.toUTF8 with
    | none =>
        rw [hwrite] at h
        cases h
    | some stored =>
        rw [hwrite] at h
        obtain rfl : stored = tree' := (Prod.mk.inj h).2
        exact ⟨⟨_, FileTree.read_of_write? hwrite⟩, fun l hl => FileTree.get?_write? hwrite hl⟩

end ClusterBoot
