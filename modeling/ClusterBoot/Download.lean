/-
  ClusterBoot.Download
  ────────────────────────────────
  **FETCHING THE FILES OF A RELEASE.**

  A downloader stores what is behind a URL at a path.  Files are fetched one
  at a time in a fixed order, the `Plan`: install script, files to install
  from, image bundles.  The first failure ends the run.
-/
import ClusterBoot.Artefacts
import ClusterBoot.Layout
import ClusterBoot.World

namespace ClusterBoot

/-! ## §1. Downloaders. -/

/-- How a file is downloaded: from the URLs requested earlier, a URL, a path
and the files, whether it arrived and the files afterwards. -/
structure Downloader where
  /-- Store what is behind a URL at a path. -/
  fetch : (earlier : List String) → (url path : String) → FileTree →
    Except DownloadFailure Unit × FileTree

/-- Request a URL and store what is behind it. -/
def Downloader.run (d : Downloader) (url path : String) : Action DownloadFailure Unit :=
  .ofFunction fun w =>
    let (result, tree) := d.fetch w.requests url path w.tree
    (result, { w with
      tree := tree
      requests := w.requests ++ [url]
      arrived := w.arrived ++ [result.isOk] })

/-! ## §2. Plans. -/

/-- A file to fetch. -/
structure Fetch where
  /-- The name of the artefact. -/
  artefact : String
  /-- Where it comes from. -/
  url : String
  /-- Where it is stored. -/
  path : String
  deriving Repr, DecidableEq

/-- The files of a selection, in the order in which they are fetched. -/
def fetchPlan (selection : Selection) (version : String) (sources : ReleaseSources)
    (paths : Layout.ArtefactPaths) : List Fetch :=
  let fetchInto (dir artefact : String) : Fetch :=
    ⟨artefact, sources.artefactUrl selection.distribution version artefact,
      Path.join dir artefact⟩
  ⟨selection.installScript, sources.installScript selection.distribution,
      Path.join paths.install selection.installScript⟩
    :: selection.install.map (fetchInto paths.install)
    ++ selection.images.map (fetchInto paths.images)

/-- Fetch files one after the other. -/
def fetchAll (d : Downloader) : List Fetch → Action Failure Unit
  | [] => pure ()
  | f :: fs => do
      (d.run f.url f.path).mapError (.download f.artefact)
      fetchAll d fs

/-- Make a directory for artefacts. -/
def makeArtefactDir (path : String) : Action Failure Unit :=
  .makeDirs (.download path (.write path)) path

/-- Fetch the files of a selection under a directory. -/
def fetchArtefacts (d : Downloader) (selection : Selection) (version : String)
    (sources : ReleaseSources) (destination : String) :
    Action Failure Layout.ArtefactPaths := do
  let paths := Layout.ArtefactPaths.under destination
  makeArtefactDir paths.install
  makeArtefactDir paths.images
  fetchAll d (fetchPlan selection version sources paths)
  return paths

/-- Fetch the key that signs the SELinux packages into a directory. -/
def fetchSigningKey (d : Downloader) (sources : ReleaseSources) (dir : String) :
    Action Failure String := do
  let path := Path.join dir SelinuxPolicy.signingKeyFile
  let failed := Failure.download SelinuxPolicy.signingKeyFile
  .makeDirs (failed (.write dir)) dir
  (d.run sources.selinuxSigningKey path).mapError failed
  return path

end ClusterBoot
