/-
  ClusterBoot.Main
  ────────────────────────────────
  **THE PROGRAM.**

  The files that a command may look at are read into a file tree, the command
  runs on it, and what it changed is written back.  The program has no
  connection to the web, so every request stays without an answer.
-/
import ClusterBoot.Program

namespace ClusterBoot.Main

/-! ## §1. Reading the files. -/

/-- What is at a path.  A directory cannot be read as a file, and whatever
else cannot be read is as good as one: nothing can be read from it or written
to it. -/
def entryAt (path : String) : IO (Option FileEntry) := do
  try
    return some (.file (← IO.FS.readBinFile path) false)
  catch
    | .noFileOrDirectory .. => return none
    | _ => return some .directory

/-- The tree with what is at each step of a path, which starts at the given
place. -/
def addAlong (place : String) (l : Location) : List String → FileTree → IO FileTree
  | [], tree => return tree
  | p :: ps, tree => do
      let next := Path.join place p
      if p = "" ∨ p = "." then addAlong place l ps tree
      else if p = ".." then addAlong next (FileTree.up l) ps tree
      else
        match ← entryAt next with
        | some e => addAlong next (l ++ [p]) ps (tree.put (l ++ [p]) e)
        | none => return tree

/-- The tree with what a path leads to. -/
def addPath (tree : FileTree) (path : String) : IO FileTree :=
  let (l, pieces) := FileTree.startOf path
  addAlong (if Path.isAbsolute path then "/" else ".") l pieces tree

/-- The files that a command may read. -/
def inputs : Command → List String
  | .build definition configDir _ _ | .inspect definition configDir =>
      [Program.environmentFile, definition,
        Layout.userDocument configDir Cluster.serverFile,
        Layout.userDocument configDir Cluster.agentFile]

/-- The files that a command may write, and the directories of those that it
would fetch. -/
def outputs : Command → List String
  | .build _ _ output _ =>
      let artefacts := Layout.ArtefactPaths.under (Layout.kubernetes output)
      [Layout.script output, Layout.vipManifest output,
        Path.join (Layout.keys output) SelinuxPolicy.signingKeyFile,
        artefacts.install, artefacts.images]
      ++ [Cluster.serverFile, Cluster.initialiserFile, Cluster.agentFile].map
          (Path.join (Layout.documents output))
      ++ [Distribution.rke2, Distribution.k3s].map fun d =>
          Layout.repositoryFile output (SelinuxPolicy.ofDistribution d .default).repositoryFile
  | .inspect _ _ => []

/-- The files that a command may look at. -/
def filesFor (command : Command) : IO FileTree :=
  (inputs command ++ outputs command).foldlM addPath .empty

/-! ## §2. Writing the files. -/

/-- The path of a location. -/
def pathOf : Location → String
  | "/" :: names => "/" ++ "/".intercalate names
  | names => "/".intercalate names

/-- The mode of a file that its owner may run. -/
def scriptMode : IO.FileRight where
  user := ⟨true, true, true⟩
  group := ⟨true, false, false⟩
  other := ⟨true, false, false⟩

/-- Write what is at a location. -/
def writeEntry (l : Location) : FileEntry → IO Unit
  | .directory => IO.FS.createDirAll (pathOf l)
  | .file content executable => do
      IO.FS.writeBinFile (pathOf l) content
      if executable then IO.setAccessRights (pathOf l) scriptMode

/-- Write what differs between two trees, directories before what is in
them. -/
def writeChanges (before after : FileTree) : IO Unit := do
  let changed := after.entries.filter fun (l, e) => before.get? l ≠ some e
  for (l, e) in changed.mergeSort fun a b => a.1.length ≤ b.1.length do
    writeEntry l e

/-! ## §3. Running. -/

/-- The names of the variables that settings are read from. -/
def variableNames : List String :=
  ["DOWNLOAD_TIMEOUT", "CLUSTER_TOKEN", "TLS_SAN", "SKIP_ARTEFACTS", "RKE2_RELEASES",
   "K3S_RELEASES", "RKE2_INSTALL_SCRIPT", "K3S_INSTALL_SCRIPT", "RKE2_SELINUX_REPO",
   "K3S_SELINUX_REPO", "SELINUX_KEY"].map (variableStem ++ ·)

/-- The variables that are set. -/
def givenVariables : IO Variables :=
  variableNames.filterMapM fun name => do
    return (← IO.getEnv name).map fun value => (name, value)

/-- A draw from the random numbers of the system. -/
def draw : IO Draw := do
  let bytes ← IO.getRandomBytes 32
  return Vector.ofFn fun i => bytes.data[i.val]?.getD 0

/-- How the program is used. -/
def usageText : String :=
  Text.unlines
    ["Kubernetes bootstrap configuration for edge OS images",
     "",
     "Usage: edge-builder kubernetes build -d DEFINITION -c CONFIG_DIR -o OUTPUT [--skip-artefacts]",
     "       edge-builder kubernetes show -d DEFINITION -c CONFIG_DIR"]

/-- Answer a command line that is no command. -/
def answerUsage : Usage → IO UInt32
  | .help => do
      IO.print usageText
      return 0
  | .version => do
      IO.println "edge-builder 0.1.0"
      return 0
  | _ => do
      IO.eprint usageText
      return 2

/-- Carry out a command on the files. -/
def carryOut (command : Command) : IO UInt32 := do
  let tree ← filesFor command
  let action := Program.carryOut (fun _ => none) (← givenVariables) (← draw) command
  let (result, world) := action.runIn (.ofTree tree)
  writeChanges tree world.tree
  IO.print (Text.unlines world.printed)
  match result with
  | .ok () => return 0
  | .error t =>
      IO.eprint (Text.unlines (t.chain.map ("Error: " ++ ·)))
      return 1

end ClusterBoot.Main

/-- Run the program with the words of its command line. -/
def main (words : List String) : IO UInt32 :=
  match ClusterBoot.CommandLine.read words with
  | .ok command => ClusterBoot.Main.carryOut command
  | .error usage => ClusterBoot.Main.answerUsage usage
