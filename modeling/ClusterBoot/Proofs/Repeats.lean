/-
  ClusterBoot.Proofs.Repeats
  ────────────────────────────────
  **DOING ONCE MORE WHAT A BUILD DID.**

  An action `Repeats` another one that succeeded if, on the files that were
  there at the very end, it succeeds with the same value and requests and
  prints the same.  The files that it leaves are said relative to that end, the
  goal (`World.Replays`), so repetitions of one action after another go
  together.  The steps of a build repeat themselves, and so do its parts
  (`carries_repeats`), if the downloader is determined by what it is asked.
-/
import ClusterBoot.Proofs.GrownTrees
import ClusterBoot.Proofs.TwoRuns

namespace ClusterBoot

open FileTree (GrowsTo modeAfter)
open ClusterBoot.Path (target)

/-! ## §1. Repeating actions. -/

/-- The world `v` of a repetition while the original is at `w`. -/
structure World.Replays (R : Location → ByteArray → ByteArray → Prop) (goal : FileTree)
    (w v : World) : Prop where
  /-- The files. -/
  tree : FileTree.Replays R goal w.tree v.tree
  /-- The same was requested. -/
  requests : v.requests = w.requests
  /-- The same arrived. -/
  arrived : v.arrived = w.arrived
  /-- The same was printed. -/
  printed : v.printed = w.printed

namespace Action

variable {R : Location → ByteArray → ByteArray → Prop} {ε ε' α β : Type}

/-- Where the first action succeeds the files grow, and on whatever they grow to
the second one does the same. -/
def Repeats (R : Location → ByteArray → ByteArray → Prop) (a a' : Action ε α) : Prop :=
  ∀ w x w', a.runIn w = (.ok x, w') →
    w.tree.GrowsTo w'.tree ∧ ∀ goal, w'.tree.GrowsTo goal → ∀ v, World.Replays R goal w v →
      ∃ v', a'.runIn v = (.ok x, v') ∧ World.Replays R goal w' v'

theorem Repeats.ofExcept (x : Except ε α) : Repeats R (ofExcept x : Action ε α) (ofExcept x) := by
  intro w y w' h
  cases x with
  | error e => cases h
  | ok a =>
      obtain ⟨rfl, rfl⟩ := pure_ok h
      exact ⟨.refl _, fun goal _ v hv => ⟨v, rfl, hv⟩⟩

theorem Repeats.pure (a : α) : Repeats R (pure a : Action ε α) (pure a) :=
  .ofExcept (.ok a)

theorem Repeats.bind {a a' : Action ε α} {f f' : α → Action ε β} (ha : Repeats R a a')
    (hf : ∀ x, Repeats R (f x) (f' x)) : Repeats R (a >>= f) (a' >>= f') := by
  intro w y w' h
  obtain ⟨x, mid, hmid, h⟩ := bind_ok h
  obtain ⟨hgrows, hrepeat⟩ := ha w x mid hmid
  obtain ⟨hgrows', hrepeat'⟩ := hf x mid y w' h
  refine ⟨hgrows.trans hgrows', fun goal hgoal v hv => ?_⟩
  -- what the first one left has grown further when it is repeated
  obtain ⟨v₁, hv₁, hreplay⟩ := hrepeat goal (hgrows'.trans hgoal) v hv
  obtain ⟨v₂, hv₂, hreplay'⟩ := hrepeat' goal hgoal v₁ hreplay
  exact ⟨v₂, (runIn_bind_of_ok hv₁).trans hv₂, hreplay'⟩

theorem Repeats.mapError {a a' : Action ε α} (f : ε → ε') (ha : Repeats R a a') :
    Repeats R (a.mapError f) (a'.mapError f) := by
  intro w x w' h
  obtain ⟨hgrows, hrepeat⟩ := ha w x w' (mapError_ok h)
  refine ⟨hgrows, fun goal hgoal v hv => ?_⟩
  obtain ⟨v', hv', hreplay⟩ := hrepeat goal hgoal v hv
  refine ⟨v', ?_, hreplay⟩
  rw [runIn_mapError, hv']
  rfl

theorem Repeats.printAll (lines : List String) :
    Repeats R (.printAll lines : Action ε Unit) (.printAll lines) := by
  intro w x w' h
  rw [runIn_printAll] at h
  obtain ⟨-, rfl⟩ := Prod.mk.inj h
  exact ⟨.refl _, fun goal _ v hv =>
    ⟨_, rfl, hv.tree, hv.requests, hv.arrived, congrArg (· ++ lines) hv.printed⟩⟩

theorem Repeats.print (line : String) :
    Repeats R (.print line : Action ε Unit) (.print line) :=
  .printAll [line]

theorem Repeats.makeDirs (refused : ε) (path : String) :
    Repeats R (.makeDirs refused path) (.makeDirs refused path) := by
  intro w x w' h
  rw [runIn_makeDirs] at h
  obtain ⟨hresult, rfl⟩ := Prod.mk.inj h
  have hmade : (w.tree.makeDirs path).1 = true := by
    by_contra hfailed
    rw [if_neg hfailed] at hresult
    cases hresult
  have hkeeps := fun l => FileTree.keeps_makeDirs l w.tree path
  refine ⟨FileTree.growsTo_of_keeps hkeeps, fun goal hgoal v hv => ?_⟩
  have hagain : v.tree.makeDirs path = (true, v.tree) :=
    FileTree.makeDirs_again hmade fun l hl => hv.tree.directory (hgoal.directory hl)
  refine ⟨v, ?_, hv.tree.keeps hkeeps, hv.requests, hv.arrived, hv.printed⟩
  rw [runIn_makeDirs, hagain]
  rfl

/-- A change of files is repeated if its tree is. -/
theorem Repeats.change (refused : ε) {f f' : FileTree → Option FileTree}
    (hf : ∀ t t', f t = some t' → t.GrowsTo t' ∧ ∀ goal, t'.GrowsTo goal → ∀ u,
      FileTree.Replays R goal t u → ∃ u', f' u = some u' ∧ FileTree.Replays R goal t' u') :
    Repeats R (.change refused f) (.change refused f') := by
  intro w x w' h
  rw [runIn_change] at h
  cases hchange : f w.tree with
  | none =>
      rw [hchange] at h
      cases h
  | some tree =>
      rw [hchange] at h
      obtain ⟨-, rfl⟩ := Prod.mk.inj h
      obtain ⟨hgrows, hrepeat⟩ := hf _ _ hchange
      refine ⟨hgrows, fun goal hgoal v hv => ?_⟩
      obtain ⟨u', hu', hreplay⟩ := hrepeat goal hgoal v.tree hv.tree
      refine ⟨{ v with tree := u' }, ?_, hreplay, hv.requests, hv.arrived, hv.printed⟩
      rw [runIn_change, hu']

/-- A file is written again, with a content that `R` allows. -/
theorem Repeats.write (refused : ε) {path : String} {content content' : ByteArray}
    (hR : R (target path) content content') :
    Repeats R (.change refused fun t => t.write? path content)
      (.change refused fun t => t.write? path content') := by
  refine .change refused fun t t' h => ⟨?_, fun goal hgoal u hu => hu.write? h hgoal hR⟩
  obtain ⟨-, hdir, executable, rfl⟩ := FileTree.write?_eq_some h
  exact FileTree.growsTo_of_put hdir fun _ => rfl

theorem Repeats.makeExecutable (refused : ε) (path : String) :
    Repeats R (.change refused fun t => t.makeExecutable? path)
      (.change refused fun t => t.makeExecutable? path) := by
  refine .change refused fun t t' h => ⟨?_, fun goal hgoal u hu => hu.makeExecutable? h hgoal⟩
  obtain ⟨-, content, executable, hget, rfl⟩ := FileTree.makeExecutable?_eq_some h
  exact FileTree.growsTo_of_put (by simp [hget]) fun _ => rfl

end Action

/-! ## §2. Determined downloaders. -/

/-- A downloader whose successes are determined by what it is asked: it stores
`content url` at its destination, and nothing else.  The file gets the mode
`mode url`, or keeps its own if there is none.  A URL that was fetched is fetched
again wherever its destination can be written. -/
structure Downloader.Determined (d : Downloader) (content : String → ByteArray)
    (mode : String → Option Bool) : Prop where
  /-- It writes its destination. -/
  writes : ∀ {earlier url path tree tree'}, d.fetch earlier url path tree = (.ok (), tree') →
    tree.locate path = .ok (target path) ∧ tree.get? (target path) ≠ some .directory
      ∧ ∀ l, tree'.get? l = (tree.put (target path)
        (.file (content url) ((mode url).getD (modeAfter (tree.get? (target path)))))).get? l
  /-- It can do so again. -/
  again : ∀ {earlier url path tree tree'}, d.fetch earlier url path tree = (.ok (), tree') →
    ∀ other : FileTree, other.locate path = .ok (target path) →
      other.get? (target path) ≠ some .directory →
      ∃ other', d.fetch earlier url path other = (.ok (), other')

namespace Downloader

variable {d : Downloader} {content : String → ByteArray} {mode : String → Option Bool}

/-- Such a downloader is exact. -/
theorem Determined.exact (hd : d.Determined content mode) : d.Exact := by
  intro earlier url path tree tree' h
  obtain ⟨hlocate, hdir, hstored⟩ := hd.writes h
  refine ⟨⟨content url, ?_⟩, fun l hl => (hstored l).trans (FileTree.get?_put_of_ne _ hl)⟩
  rw [FileTree.read_congr fun l _ => hstored l]
  exact FileTree.read_eq_ok.2 ⟨FileTree.locate_put_file hlocate hdir, _,
    FileTree.get?_put_self _ hdir⟩

/-- A rehearsal stores the URL in the file at its destination. -/
theorem rehearsal_determined (failOn : Option String) :
    (Downloader.rehearsal failOn).Determined String.toUTF8 fun _ => none where
  writes {earlier url path tree tree'} h := by
    rw [rehearsal_fetch] at h
    split at h
    · cases h
    · cases hwrite : tree.write? path url.toUTF8 with
      | none =>
          rw [hwrite] at h
          cases h
      | some stored =>
          rw [hwrite] at h
          obtain rfl : stored = tree' := (Prod.mk.inj h).2
          obtain ⟨hlocate, hdir, -⟩ := FileTree.write?_eq_some hwrite
          rw [FileTree.write?_of_locate hlocate, if_neg hdir] at hwrite
          exact ⟨hlocate, hdir, fun l => by rw [← Option.some.inj hwrite, Option.getD_none]⟩
  again {earlier url path tree tree'} h other hlocate hdir := by
    rw [rehearsal_fetch] at h ⊢
    split at h
    next => cases h
    next hfails =>
      rw [if_neg hfails, FileTree.write?_of_locate hlocate, if_neg hdir]
      exact ⟨_, rfl⟩

end Downloader

/-! ## §3. Parts of a build. -/

namespace Build

open ClusterBoot.Action (Repeats)

variable {R : Location → ByteArray → ByteArray → Prop}

/-- What a build consists of repeats itself. -/
theorem carries_repeats (hR : ∀ l content, R l content content) :
    Carries (fun _ _ a => Repeats R a a) (fun _ => True) (fun _ => True) where
  ofExcept := .ofExcept
  bind := .bind
  mapError f _ ha := ha.mapError f
  print := .print
  makeDirs refused path _ := .makeDirs refused path
  write refused _ content _ := .write refused (hR _ content)
  parent _ _ := trivial

/-- So does a determined downloader. -/
theorem carriesFetch_repeats {d : Downloader} {content : String → ByteArray}
    {mode : String → Option Bool} (hd : d.Determined content mode)
    (hR : ∀ l content, R l content content) :
    CarriesFetch d (fun _ _ a => Repeats R a a) (fun _ => True) := by
  intro url path _ w x w' h
  obtain ⟨hresult, hworld⟩ := Prod.mk.inj h
  have hfetch : d.fetch w.requests url path w.tree = (.ok (), w'.tree) :=
    Prod.ext hresult (congrArg World.tree hworld)
  obtain ⟨hlocate, hdir, hstored⟩ := hd.writes hfetch
  have hgrows : w.tree.GrowsTo w'.tree := FileTree.growsTo_of_put hdir hstored
  refine ⟨hgrows, fun goal hgoal v hv => ?_⟩
  -- the destination can be written, because there is a file already
  have hlocate' : v.tree.locate path = .ok (target path) := FileTree.locate_mono
    (fun l hl => hv.tree.directory (hgoal.directory (hgrows.directory hl))) hlocate
  have hfile : goal.IsFile (target path) :=
    hgoal.file ⟨_, _, (hstored _).trans (FileTree.get?_put_self _ hdir)⟩
  have hdir' := (hv.tree.file hfile).ne_directory
  obtain ⟨tree', hagain⟩ := hd.again hfetch v.tree hlocate' hdir'
  obtain ⟨-, -, hstored'⟩ := hd.writes hagain
  obtain ⟨final, executable, hfinal⟩ := hfile
  have hmode : (mode url).getD (modeAfter (v.tree.get? (target path)))
        = (mode url).getD (modeAfter (w.tree.get? (target path)))
      ∨ (mode url).getD (modeAfter (v.tree.get? (target path))) = executable := by
    cases mode url with
    | some b => exact .inl rfl
    | none => exact hv.tree.modeAfter hfinal
  have htree := (hv.tree.put hdir hdir' hfinal (.inl (hR _ (content url))) hmode).congr hstored
    hstored'
  have hrun : (d.run url path).runIn v = (.ok (), { v with
      tree := tree'
      requests := v.requests ++ [url]
      arrived := v.arrived ++ [true] }) := by
    rw [Downloader.run, Action.runIn_ofFunction, hv.requests, hagain]
    rfl
  refine ⟨_, hrun, htree, ?_, ?_, ?_⟩
  · rw [← hworld, hv.requests]
  · rw [← hworld, hresult, hv.arrived]
    rfl
  · rw [← hworld, hv.printed]

/-- A text is written in place of another. -/
theorem Repeats.writeText {path text text' : String}
    (hR : R (target path) text.toUTF8 text'.toUTF8) :
    Repeats R (writeText path text) (writeText path text') := by
  unfold Build.writeText
  cases Path.parent? path with
  | none => exact .write _ hR
  | some dir => exact (Action.Repeats.makeDirs _ dir).bind fun _ => .write _ hR

/-- Role documents of the same names are written in place of others. -/
theorem Repeats.writeDocuments {dir : String} {docs docs' : List (String × RoleDocument)}
    (hdocs : List.Forall₂ (fun doc doc' => doc'.1 = doc.1
      ∧ R (target (Path.join dir doc.1)) doc.2.toText.toUTF8 doc'.2.toText.toUTF8) docs docs') :
    Repeats R (writeDocuments dir docs) (writeDocuments dir docs') := by
  induction hdocs with
  | nil => exact .pure []
  | @cons doc doc' docs docs' hdoc hdocs ih =>
      obtain ⟨name, text⟩ := doc
      obtain ⟨name', text'⟩ := doc'
      obtain ⟨rfl, hR⟩ := hdoc
      apply Action.Repeats.bind (Repeats.writeText hR)
      intro _
      apply Action.Repeats.bind (.print _)
      intro _
      exact ih.bind fun _ => .pure _

/-- The last part of a build repeats itself. -/
theorem finish_repeats {d : Downloader} {content : String → ByteArray}
    {mode : String → Option Bool} (hd : d.Determined content mode)
    (hR : ∀ l content, R l content content) {r : BuildRequest} {distribution : Distribution}
    (hdistribution : Distribution.ofVersion r.definition.cluster.version = .ok distribution)
    (cluster : Cluster) (documents : List String) (selection : Selection) :
    Repeats R (finish d r distribution cluster documents selection)
      (finish d r distribution cluster documents selection) :=
  (carries_repeats hR).finish (carriesFetch_repeats hd hR) hdistribution (fun _ _ => trivial)
    (fun _ _ => trivial) trivial (fun refused => .makeExecutable refused _) documents

end Build

end ClusterBoot
