/-
  ClusterBoot.Proofs.TwoRuns
  ────────────────────────────────
  **TWO BUILDS SIDE BY SIDE.**

  Two actions go `Together` if they give the same result in worlds that are
  alike and leave worlds that are alike: whatever may differ between the files
  then shows neither in what is requested nor in what is printed.  An action
  that looks at no more than it may goes together with itself, and this is
  carried from the steps of a build to its parts (`carries_together`).  Only
  the role documents are written with two texts (`Together.writeDocuments`).
-/
import ClusterBoot.Proofs.AlikeTrees
import ClusterBoot.Proofs.BuildSteps
import Mathlib.Data.List.Forall2

namespace ClusterBoot

open FileTree (Difference)
open ClusterBoot.Path (IsName target)

/-! ## §1. Actions that go together. -/

/-- Two worlds whose files may differ, and nothing else. -/
structure World.Alike (D : Difference) (w w' : World) : Prop where
  /-- The files. -/
  tree : FileTree.Alike D w.tree w'.tree
  /-- The same was requested. -/
  requests : w'.requests = w.requests
  /-- The same arrived. -/
  arrived : w'.arrived = w.arrived
  /-- The same was printed. -/
  printed : w'.printed = w.printed

namespace Action

variable {D : Difference} {ε ε' α β : Type}

/-- Two actions give the same result in worlds that are alike, and these stay
alike. -/
def Together (D : Difference) (a a' : Action ε α) : Prop :=
  ∀ w w', World.Alike D w w' →
    (a'.runIn w').1 = (a.runIn w).1 ∧ World.Alike D (a.runIn w).2 (a'.runIn w').2

theorem Together.ofExcept (x : Except ε α) :
    Together D (.ofExcept x : Action ε α) (.ofExcept x) := by
  intro w w' h
  cases x with
  | error e => exact ⟨rfl, h⟩
  | ok a => exact ⟨rfl, h⟩

theorem Together.pure (a : α) : Together D (pure a : Action ε α) (pure a) :=
  .ofExcept (.ok a)

theorem Together.bind {a a' : Action ε α} {f f' : α → Action ε β} (ha : Together D a a')
    (hf : ∀ x, Together D (f x) (f' x)) : Together D (a >>= f) (a' >>= f') := by
  intro w w' h
  obtain ⟨hresult, hworlds⟩ := ha w w' h
  rcases hw : a.runIn w with ⟨e | x, v⟩
  · rcases hw' : a'.runIn w' with ⟨e' | x', v'⟩
    · rw [hw, hw'] at hresult hworlds
      obtain rfl := Except.error.inj hresult
      rw [runIn_bind_of_error hw, runIn_bind_of_error hw']
      exact ⟨rfl, hworlds⟩
    · rw [hw, hw'] at hresult
      exact absurd hresult (by simp)
  · rcases hw' : a'.runIn w' with ⟨e' | x', v'⟩
    · rw [hw, hw'] at hresult
      exact absurd hresult (by simp)
    · rw [hw, hw'] at hresult hworlds
      obtain rfl := Except.ok.inj hresult
      rw [runIn_bind_of_ok hw, runIn_bind_of_ok hw']
      exact hf _ v v' hworlds

theorem Together.mapError {a a' : Action ε α} (f : ε → ε') (ha : Together D a a') :
    Together D (a.mapError f) (a'.mapError f) := by
  intro w w' h
  obtain ⟨hresult, hworlds⟩ := ha w w' h
  rw [runIn_mapError, runIn_mapError, hresult]
  exact ⟨rfl, hworlds⟩

theorem Together.print (line : String) :
    Together D (.print line : Action ε Unit) (.print line) :=
  fun _ _ h => ⟨rfl, h.tree, h.requests, h.arrived, congrArg (· ++ [line]) h.printed⟩

theorem Together.printAll (lines : List String) :
    Together D (.printAll lines : Action ε Unit) (.printAll lines) :=
  fun _ _ h => ⟨rfl, h.tree, h.requests, h.arrived, congrArg (· ++ lines) h.printed⟩

/-- A path on which it may not differ whether there is something. -/
def Passable (D : Difference) (path : String) : Prop :=
  ∀ l, Path.Passes path l → D.Passable l

theorem Together.makeDirs (refused : ε) {path : String} (hpath : Passable D path) :
    Together D (.makeDirs refused path) (.makeDirs refused path) := by
  intro w w' h
  obtain ⟨hmade, htrees⟩ := h.tree.makeDirs hpath
  rw [runIn_makeDirs, runIn_makeDirs, hmade]
  exact ⟨rfl, htrees, h.requests, h.arrived, h.printed⟩

/-- Two changes go together if they succeed in both trees or in neither and
keep them alike. -/
theorem Together.change (refused : ε) {f f' : FileTree → Option FileTree}
    (hf : ∀ t t', FileTree.Alike D t t' → Option.Rel (FileTree.Alike D) (f t) (f' t')) :
    Together D (.change refused f) (.change refused f') := by
  intro w w' h
  have hchanged := hf _ _ h.tree
  rw [runIn_change, runIn_change]
  generalize f w.tree = x, f' w'.tree = x' at hchanged
  cases hchanged with
  | none => exact ⟨rfl, h⟩
  | some htrees => exact ⟨rfl, htrees, h.requests, h.arrived, h.printed⟩

end Action

/-! ## §2. Parts of a build. -/

namespace Build

open ClusterBoot.Action (Together Passable)

variable {D : Difference}

/-- A path where a file can be received and nothing may differ. -/
structure Clear (D : Difference) (path : String) : Prop where
  /-- The file. -/
  isPublic : D.Public (target path)
  /-- The file that it is received in. -/
  isPublic_part : D.Public (target (Path.partOf path))
  /-- The directories. -/
  passable : ∀ {dir}, Path.parent? path = some dir → Passable D dir

/-- A path is clear if its directories are passable and nothing may differ in
the last one, neither at its name nor beside it. -/
theorem clear_join {dir name : String} (hname : IsName name) (hdir : Passable D dir)
    (hfiles : ∀ file ∈ [name, name ++ ".part"], D.Public (target dir ++ [file])) :
    Clear D (Path.join dir name) where
  isPublic := by
    rw [Path.target_join hname]
    exact hfiles _ (.head _)
  isPublic_part := by
    rw [Path.target_partOf_join hname (Path.isName_part hname)]
    exact hfiles _ (.tail _ (.head _))
  passable hparent := by
    obtain ⟨parent, hparent', hpasses⟩ := Path.parent_join_passes dir hname
    obtain rfl := Option.some.inj (hparent'.symm.trans hparent)
    exact fun l hl => hdir l ((hpasses l).1 hl)

/-- What looks at nothing that may differ goes together with itself. -/
theorem carries_together (D : Difference) :
    Carries (fun _ _ a => Together D a a) (Passable D) (Clear D) where
  ofExcept := .ofExcept
  bind := .bind
  mapError f _ ha := ha.mapError f
  print := .print
  makeDirs refused _ hpath := .makeDirs refused hpath
  write refused _ content hpath :=
    .change refused fun _ _ h => h.write? (hpath.isPublic.file content)
  parent hpath hdir := hpath.passable hdir

/-- So does a blind downloader. -/
theorem carriesFetch_together {d : Downloader} (hd : d.Blind) (D : Difference) :
    CarriesFetch d (fun _ _ a => Together D a a) (Clear D) := by
  intro url path hpath w w' h
  obtain ⟨hresult, htrees⟩ := hd D w.requests url path _ _ h.tree hpath.isPublic hpath.isPublic_part
  rw [Downloader.run, Action.runIn_ofFunction, Action.runIn_ofFunction, h.requests]
  refine ⟨hresult, htrees, rfl, ?_, h.printed⟩
  show w'.arrived ++ _ = w.arrived ++ _
  rw [h.arrived, hresult]

/-- Two texts are written together where they may differ. -/
theorem Together.writeText {dir name text text' : String} (hname : IsName name)
    (hdir : Passable D dir)
    (hfile : ∀ e e', D.permits (target (Path.join dir name)) e e' →
      D.permits (target (Path.join dir name)) (some (.file text.toUTF8 (FileTree.modeAfter e)))
        (some (.file text'.toUTF8 (FileTree.modeAfter e')))) :
    Together D (writeText (Path.join dir name) text) (writeText (Path.join dir name) text') := by
  obtain ⟨parent, hparent, hpasses⟩ := Path.parent_join_passes dir hname
  have hmake : Passable D parent := fun l hl => hdir l ((hpasses l).1 hl)
  unfold Build.writeText
  rw [hparent]
  exact (Action.Together.makeDirs _ hmake).bind fun _ => .change _ fun _ _ h => h.write? hfile

/-- Role documents of the same names are written together if their texts may
differ at their places. -/
theorem Together.writeDocuments {dir : String} (hdir : Passable D dir)
    {docs docs' : List (String × RoleDocument)}
    (hdocs : List.Forall₂ (fun doc doc' => doc'.1 = doc.1 ∧ IsName doc.1 ∧ ∀ x x',
      D.permits (target (Path.join dir doc.1)) (some (.file doc.2.toText.toUTF8 x))
        (some (.file doc'.2.toText.toUTF8 x'))) docs docs') :
    Together D (writeDocuments dir docs) (writeDocuments dir docs') := by
  induction hdocs with
  | nil => exact .pure []
  | @cons doc doc' docs docs' hdoc hdocs ih =>
      obtain ⟨name, text⟩ := doc
      obtain ⟨name', text'⟩ := doc'
      obtain ⟨rfl, hname, hfile⟩ := hdoc
      apply Action.Together.bind (Together.writeText hname hdir fun _ _ _ => hfile _ _)
      intro _
      apply Action.Together.bind (.print _)
      intro _
      exact ih.bind fun _ => .pure _

end Build

end ClusterBoot
