/-
  ClusterBoot.InstallScript
  ────────────────────────────────
  **THE SCRIPT THAT INSTALLS A NODE AT ITS FIRST BOOT.**

  The script copies the role document and the image bundles to where the
  distribution looks for them, installs the SELinux policy if there is one,
  runs the distribution's own install script and enables its service.  On a
  cluster of several nodes it first looks the host name up to find the role
  of the node.  Values are put into the script as they are.
-/
import ClusterBoot.Artefacts
import ClusterBoot.Text.Lines

namespace ClusterBoot

/-! ## §1. What a script is made from. -/

/-- A node as the script knows it. -/
structure NodeRole where
  /-- The host name. -/
  hostname : String
  /-- Its role: `server` or `agent`. -/
  role : String
  deriving Repr, DecidableEq

/-- What the script needs to install a SELinux policy. -/
structure SelinuxInstall where
  /-- The name of the policy package. -/
  package : String
  /-- Where the repository file is. -/
  repositoryFile : String
  /-- Where the signing key is, if it is there. -/
  signingKey : Option String
  deriving Repr, DecidableEq

/-- What a script is made from.  Paths are relative to the directory that the
script runs in. -/
structure InstallValues where
  /-- The name of the distribution. -/
  distribution : String
  /-- The directory of the files to install from. -/
  installPath : String
  /-- The directory of the image bundles. -/
  imagesPath : String
  /-- The name of the distribution's install script. -/
  installScript : String
  /-- The name of the archive or binary. -/
  binary : String
  /-- The directory of the role documents. -/
  configDir : String
  /-- The file of the server document. -/
  serverFile : String
  /-- The file of the agent document. -/
  agentFile : String
  /-- The file of the initialising server's document. -/
  initialiserFile : String
  /-- The host name of the initialising node. -/
  initialiser : String
  /-- The manifest of the virtual addresses, if there is one. -/
  vipManifest : Option String
  /-- The SELinux policy, if there is one. -/
  selinux : Option SelinuxInstall
  /-- The nodes. -/
  nodes : List NodeRole
  deriving Repr, DecidableEq

/-- Where the script finds its files. -/
structure InstallPaths where
  /-- The directory of the files to install from. -/
  install : String
  /-- The directory of the image bundles. -/
  images : String
  /-- The directory of the role documents. -/
  config : String
  deriving Repr, DecidableEq

/-- Where a build puts the files. -/
def InstallPaths.default : InstallPaths :=
  ⟨"kubernetes/install", "kubernetes/images", "kubernetes/config"⟩

/-- A node as the script knows it. -/
def NodeRole.ofNode (n : Node) : NodeRole := ⟨n.hostname, n.kind.name⟩

/-- What the script of a cluster is made from. -/
def InstallValues.ofCluster (definition : ClusterDefinition) (cluster : Cluster)
    (selection : Selection) (paths : InstallPaths) (vipManifest : Option String)
    (selinux : Option SelinuxInstall) : InstallValues where
  distribution := selection.distribution.name
  installPath := paths.install
  imagesPath := paths.images
  installScript := selection.installScript
  binary := selection.binary
  configDir := paths.config
  serverFile := Cluster.serverFile
  agentFile := Cluster.agentFile
  initialiserFile := Cluster.initialiserFile
  initialiser := cluster.initialiser
  vipManifest := vipManifest
  selinux := selinux
  nodes := if cluster.isMultiNode then definition.nodes.map NodeRole.ofNode else []

/-- Which script a cluster gets. -/
inductive InstallVariant where
  | singleNode
  | multiNode
  deriving Repr, DecidableEq

namespace InstallVariant

/-- The script of a cluster. -/
def ofCluster (c : Cluster) : InstallVariant :=
  if c.isMultiNode then multiNode else singleNode

/-- The name of a script's template. -/
def templateName : InstallVariant → String
  | singleNode => "single-node-installer.sh"
  | multiNode => "multi-node-installer.sh"

end InstallVariant

/-! ## §2. Parts of the scripts. -/

/-- A text that is present and not empty. -/
def filled? : Option String → Option String
  | some "" => none
  | s => s

namespace InstallValues

/-- Whether the script is one for RKE2. -/
def isRke2 (v : InstallValues) : Bool :=
  v.distribution = "rke2"

/-- The first lines: where the distribution keeps its files. -/
def headLines (v : InstallValues) : List String :=
  ["#!/bin/bash", "set -euo pipefail", ""]
  ++ (if v.isRke2 then
        ["CONFIG_DIR=/etc/rancher/rke2",
         "MANIFESTS_DIR=/var/lib/rancher/rke2/server/manifests",
         "IMAGES_DIR=/var/lib/rancher/rke2/agent/images"]
      else
        ["CONFIG_DIR=/etc/rancher/k3s",
         "MANIFESTS_DIR=/var/lib/rancher/k3s/server/manifests",
         "IMAGES_DIR=/var/lib/rancher/k3s/agent/images"])
  ++ [""]

/-- Copying the manifest of the virtual addresses, each line after a margin. -/
def vipLines (v : InstallValues) (margin : String) : List String :=
  match filled? v.vipManifest with
  | some path =>
      ["", margin ++ "mkdir -p $MANIFESTS_DIR", margin ++ "cp " ++ path ++ " $MANIFESTS_DIR/"]
  | none => []

/-- Importing the signing key. -/
def signingKeyLines (s : SelinuxInstall) : List String :=
  match filled? s.signingKey with
  | some key => ["cp " ++ key ++ " /etc/pki/rpm-gpg/", "rpm --import " ++ key]
  | none => []

/-- Installing the SELinux policy. -/
def selinuxLines (v : InstallValues) : List String :=
  match v.selinux with
  | some s =>
      ["mkdir -p /etc/pki/rpm-gpg /etc/zypp/repos.d"]
      ++ signingKeyLines s
      ++ ["cp " ++ s.repositoryFile ++ " /etc/zypp/repos.d/",
          "zypper --non-interactive install " ++ s.package,
          ""]
  | none => []

/-- Copying the image bundles. -/
def imageLines (v : InstallValues) : List String :=
  ["mkdir -p $IMAGES_DIR", "cp " ++ v.imagesPath ++ "/* $IMAGES_DIR/", ""]

/-- The path of the distribution's install script. -/
def scriptPath (v : InstallValues) : String :=
  v.installPath ++ "/" ++ v.installScript

/-- Putting the binary of K3s into place. -/
def binaryLine (v : InstallValues) : String :=
  "install -m 0755 " ++ v.installPath ++ "/" ++ v.binary ++ " /usr/local/bin/k3s"

/-! ## §3. The script of a single node. -/

/-- Running the install script of a single server and enabling it. -/
def singleServiceLines (v : InstallValues) : List String :=
  if v.isRke2 then
    ["export INSTALL_RKE2_ARTIFACT_PATH=" ++ v.installPath,
     "sh " ++ v.scriptPath,
     "",
     "systemctl enable rke2-server.service"]
  else
    [v.binaryLine,
     "INSTALL_K3S_SKIP_DOWNLOAD=true INSTALL_K3S_SKIP_START=true sh " ++ v.scriptPath,
     "",
     "systemctl enable k3s.service"]

/-- The lines of the script of a single node. -/
def singleLines (v : InstallValues) : List String :=
  v.headLines
  ++ ["mkdir -p $CONFIG_DIR",
      "cp " ++ v.configDir ++ "/" ++ v.serverFile ++ " $CONFIG_DIR/config.yaml"]
  ++ v.vipLines ""
  ++ [""]
  ++ v.selinuxLines
  ++ v.imageLines
  ++ v.singleServiceLines

/-! ## §4. The script of a cluster of several nodes. -/

/-- The line that gives the role of a node. -/
def nodeLine (n : NodeRole) : String :=
  "hosts[\"" ++ n.hostname ++ "\"]=" ++ n.role

/-- Finding the role of the node from its host name. -/
def roleLines (v : InstallValues) : List String :=
  ["HOSTNAME=$(cat /etc/hostname)",
   "if [ ! \"$HOSTNAME\" ]; then",
   "  HOSTNAME=$(cat /proc/sys/kernel/hostname)",
   "fi",
   "",
   "declare -A hosts"]
  ++ v.nodes.map nodeLine
  ++ ["",
      "NODETYPE=\"$\x7bhosts[$HOSTNAME]:-none\x7d\"",
      "if [ \"$NODETYPE\" = \"none\" ]; then",
      "  echo \"ERROR: $HOSTNAME is not listed in the cluster nodes\"",
      "  exit 1",
      "fi",
      ""]

/-- Copying the role document of the node. -/
def documentLines (v : InstallValues) : List String :=
  ["mkdir -p $CONFIG_DIR",
   "if [ \"$HOSTNAME\" = \"" ++ v.initialiser ++ "\" ]; then",
   "  NODETYPE=server",
   "  CONFIGFILE=" ++ v.initialiserFile]
  ++ v.vipLines "  "
  ++ ["elif [ \"$NODETYPE\" = \"server\" ]; then",
      "  CONFIGFILE=" ++ v.serverFile,
      "else",
      "  CONFIGFILE=" ++ v.agentFile,
      "fi",
      "",
      "cp " ++ v.configDir ++ "/$CONFIGFILE $CONFIG_DIR/config.yaml",
      ""]

/-- Running the install script for the role of the node and enabling its
service. -/
def multiServiceLines (v : InstallValues) : List String :=
  if v.isRke2 then
    ["export INSTALL_RKE2_ARTIFACT_PATH=" ++ v.installPath,
     "export INSTALL_RKE2_TYPE=$NODETYPE",
     "sh " ++ v.scriptPath,
     "",
     "systemctl enable rke2-$NODETYPE.service"]
  else
    [v.binaryLine,
     "INSTALL_K3S_SKIP_DOWNLOAD=true INSTALL_K3S_SKIP_START=true INSTALL_K3S_EXEC=$NODETYPE sh "
       ++ v.scriptPath,
     "",
     "if [ \"$NODETYPE\" = \"server\" ]; then",
     "  systemctl enable k3s.service",
     "else",
     "  systemctl enable k3s-agent.service",
     "fi"]

/-- The lines of the script of a cluster of several nodes. -/
def multiLines (v : InstallValues) : List String :=
  v.headLines ++ v.roleLines ++ v.documentLines ++ v.selinuxLines ++ v.imageLines
  ++ v.multiServiceLines

/-! ## §5. Scripts. -/

/-- The lines of a script. -/
def scriptLines (v : InstallValues) : InstallVariant → List String
  | .singleNode => v.singleLines
  | .multiNode => v.multiLines

/-- A script. -/
def script (v : InstallValues) (variant : InstallVariant) : String :=
  Text.unlines (v.scriptLines variant)

end InstallValues

end ClusterBoot
