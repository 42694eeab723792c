/-
  ClusterBoot.Build
  ────────────────────────────────
  **BUILDING THE CLUSTER PART OF AN IMAGE.**

  A build derives the cluster, writes the role documents, fetches the
  artefacts, prepares the SELinux policy and the virtual addresses, and at
  the end writes the script that installs a node.  Nothing is requested
  before the artefacts are selected, and the script is written last, so a
  build that fails leaves the script as it was.
-/
import ClusterBoot.Download
import ClusterBoot.InstallScript
import ClusterBoot.Trouble
import ClusterBoot.VirtualAddress

namespace ClusterBoot

/-! ## §1. Requests and results. -/

/-- What to build. -/
structure BuildRequest where
  /-- The image. -/
  definition : ImageDefinition
  /-- The user's configuration directory. -/
  configDir : String
  /-- The directory that the build writes into. -/
  output : String
  /-- How it is done. -/
  settings : Settings
  deriving Repr, DecidableEq

/-- What a build made. -/
structure BuildReport where
  /-- The path of the script. -/
  script : String
  /-- The paths of the role documents. -/
  documents : List String
  /-- Where the artefacts are, unless they were skipped. -/
  artefacts : Option Layout.ArtefactPaths
  /-- The SELinux policy, if there is one. -/
  selinux : Option SelinuxPolicy
  /-- The path of the manifest of the virtual addresses, if there is one. -/
  vipManifest : Option String
  deriving Repr, DecidableEq

/-- What a warning looks like when it is printed. -/
def Warning.line (w : Warning) : String :=
  "⚠️  " ++ w.message

namespace Build

/-! ## §2. Files. -/

/-- The file at a path as text. -/
def textAt (tree : FileTree) (path : String) : FileText :=
  match tree.read path with
  | .ok content =>
      match String.fromUTF8? content with
      | some s => .text s
      | none => .unreadable
  | .error .missing => .missing
  | .error .refused => .unreadable

/-- One of the user's role documents. -/
def loadUserDocument (tree : FileTree) (configDir file : String) : Except Failure RoleDocument :=
  let path := Layout.userDocument configDir file
  RoleDocument.load path (textAt tree path)

/-- The cluster that a definition and the user's files make. -/
def clusterFor (tree : FileTree) (definition : ClusterDefinition) (configDir : String)
    (options : ClusterOptions) (draw : Draw) : Except Failure Cluster :=
  Cluster.derive definition options draw
    (loadUserDocument tree configDir Cluster.serverFile)
    (loadUserDocument tree configDir Cluster.agentFile)

/-- A failure within a step, as a trouble. -/
def failureIn (step : Step) (f : Failure) : Trouble :=
  (Trouble.ofFailure f).within step

/-- Write a text to a file whose directory is made if it is missing. -/
def writeText (path text : String) : Action Trouble Unit := do
  match Path.parent? path with
  | some dir => .makeDirs ((Trouble.ofCause .refused).within (.makingDirectory dir)) dir
  | none => pure ()
  .change ((Trouble.ofCause .refused).within (.writing path)) fun t => t.write? path text.toUTF8

/-! ## §3. Parts of a build. -/

/-- Write the role documents into a directory, and give their paths. -/
def writeDocuments (dir : String) : List (String × RoleDocument) → Action Trouble (List String)
  | [] => return []
  | (name, doc) :: docs => do
      let path := Path.join dir name
      writeText path doc.toText
      .print ("✓ Wrote " ++ path)
      let paths ← writeDocuments dir docs
      return path :: paths

/-- Fetch the artefacts, unless they are skipped. -/
def fetchSelection (d : Downloader) (r : BuildRequest) (selection : Selection) :
    Action Trouble (Option Layout.ArtefactPaths) := do
  if r.settings.skipArtefacts then
    .print "⚠️  Skipping artefact downloads"
    return none
  else
    let total := selection.install.length + selection.images.length + 1
    .print ("Downloading " ++ toString total ++ " Kubernetes artefacts...")
    let paths ← (fetchArtefacts d selection r.definition.cluster.version r.settings.sources
      (Layout.kubernetes r.output)).mapError (failureIn .downloadingArtefacts)
    .print ("✓ Artefacts downloaded to " ++ Layout.kubernetes r.output)
    return some paths

/-- Write the repository file of a SELinux policy and fetch its signing key,
unless nothing is downloaded. -/
def prepareSelinux (d : Downloader) (r : BuildRequest) :
    Action Trouble (SelinuxPolicy × SelinuxInstall) := do
  let policy ← .mapError (failureIn .resolvingPolicy)
    (.ofExcept (SelinuxPolicy.ofVersion r.definition.cluster.version r.settings.sources))
  writeText (Layout.repositoryFile r.output policy.repositoryFile) policy.repositoryText
  let key ←
    if r.settings.skipArtefacts then pure none
    else do
      let _ ← (fetchSigningKey d r.settings.sources (Layout.keys r.output)).mapError
        (failureIn .downloadingKey)
      pure (some Layout.signingKeyInScript)
  .print ("✓ SELinux policy package: " ++ policy.package)
  return (policy, ⟨policy.package, Layout.repositoryFileInScript policy.repositoryFile, key⟩)

/-- Prepare the SELinux policy of a cluster, if its servers ask for one. -/
def selinuxFor (d : Downloader) (r : BuildRequest) (server : RoleDocument) :
    Action Trouble (Option (SelinuxPolicy × SelinuxInstall)) :=
  if server.selinuxEnabled then some <$> prepareSelinux d r else pure none

/-- Write the manifest of the virtual addresses, if there are any, and give
its path. -/
def writeVipManifest (output : String) : Option VirtualAddresses → Action Trouble (Option String)
  | none => return none
  | some v => do
      writeText (Layout.vipManifest output) v.manifest
      .print ("✓ VIP manifest written for " ++ ", ".intercalate (v.addresses.map (·.address)))
      return some (Layout.vipManifest output)

/-- Write the script and make it executable. -/
def writeScript (output : String) (script : String) : Action Trouble Unit := do
  let path := Layout.script output
  writeText path script
  .change ((Trouble.ofCause .refused).within (.settingPermissions path)) fun t =>
    t.makeExecutable? path

/-! ## §4. Builds. -/

/-- Finish a build once its role documents are written and its artefacts are
known: fetch them, prepare the SELinux policy and the virtual addresses, and
write the script. -/
def finish (d : Downloader) (r : BuildRequest) (distribution : Distribution) (cluster : Cluster)
    (documents : List String) (selection : Selection) : Action Trouble BuildReport := do
  let definition := r.definition.cluster
  let artefacts ← fetchSelection d r selection
  let selinux ← selinuxFor d r cluster.serverDocument
  let vipManifest ←
    writeVipManifest r.output (VirtualAddresses.ofCluster? definition distribution)
  let values := InstallValues.ofCluster definition cluster selection .default
    (vipManifest.map fun _ => Layout.vipManifestInScript) (selinux.map (·.2))
  writeScript r.output (values.script (.ofCluster cluster))
  return {
    script := Layout.script r.output
    documents := documents
    artefacts := artefacts
    selinux := selinux.map (·.1)
    vipManifest := vipManifest }

/-- Build the cluster part of an image whose distribution is known. -/
def runFor (d : Downloader) (r : BuildRequest) (draw : Draw) (distribution : Distribution) :
    Action Trouble BuildReport := do
  let tree ← .tree
  let cluster ← .mapError (failureIn .derivingCluster)
    (.ofExcept (clusterFor tree r.definition.cluster r.configDir r.settings.cluster draw))
  .printAll (cluster.warnings.map Warning.line)
  let documents ← writeDocuments (Layout.documents r.output) cluster.documents
  let selection ← .mapError (failureIn .selectingArtefacts)
    (.ofExcept (select distribution r.definition.arch cluster.serverDocument))
  finish d r distribution cluster documents selection

/-- Build the cluster part of an image that has a release version. -/
def runVersioned (d : Downloader) (r : BuildRequest) (draw : Draw) : Action Trouble BuildReport := do
  let distribution ← .mapError Trouble.ofFailure
    (.ofExcept (Distribution.ofVersion r.definition.cluster.version))
  runFor d r draw distribution

/-- Print how an action ended. -/
def announced (a : Action Trouble BuildReport) : Action Trouble BuildReport :=
  .ofFunction fun w =>
    match a.runIn w with
    | (.ok report, w) =>
        (.ok report,
          { w with printed := w.printed ++ ["✓ Kubernetes configured: " ++ report.script] })
    | (.error t, w) =>
        (.error t,
          { w with printed := w.printed ++ ["✗ Configuring Kubernetes failed: " ++ t.message] })

/-- Build the cluster part of an image; nothing is done if it has none. -/
def run (d : Downloader) (r : BuildRequest) (draw : Draw) : Action Trouble (Option BuildReport) :=
  if r.definition.cluster.version = "" then pure none
  else some <$> announced (runVersioned d r draw)

end Build

end ClusterBoot
