/-
  ClusterBoot.Layout
  ────────────────────────────────
  **WHERE THE FILES OF A BUILD ARE.**

      <output>/
        15-kubernetes-install.sh
        kubernetes/config/server.yaml, init_server.yaml, agent.yaml
        kubernetes/install/…
        kubernetes/images/…
        kubernetes/manifests/k8s-vip.yaml
        kubernetes/gpg-keys/rancher-public.key
        kubernetes/rpm-repos/<distribution>-selinux.repo

  The user's own role documents are under `kubernetes/config` of the
  configuration directory.
-/
import ClusterBoot.Path
import ClusterBoot.Selinux

namespace ClusterBoot.Layout

/-! ## §1. Names. -/

/-- The directory of everything but the script. -/
def kubernetesDir : String := "kubernetes"

/-- The directory of the role documents in it. -/
def configDir : String := "config"

/-- The directory of the manifests in it. -/
def manifestsDir : String := "manifests"

/-- The directory of the signing keys in it. -/
def keysDir : String := "gpg-keys"

/-- The directory of the repository files in it. -/
def repositoriesDir : String := "rpm-repos"

/-- The directory of the files to install from in it. -/
def installDir : String := "install"

/-- The directory of the image bundles in it. -/
def imagesDir : String := "images"

/-- The name of the script. -/
def scriptFile : String := "15-kubernetes-install.sh"

/-- The name of the manifest of the virtual addresses. -/
def vipManifestFile : String := "k8s-vip.yaml"

/-! ## §2. Paths of a build. -/

/-- The path of one of the user's role documents. -/
def userDocument (config file : String) : String :=
  Path.join (Path.join (Path.join config kubernetesDir) configDir) file

/-- The directory of everything but the script. -/
def kubernetes (output : String) : String :=
  Path.join output kubernetesDir

/-- The directory of the role documents. -/
def documents (output : String) : String :=
  Path.join (kubernetes output) configDir

/-- The path of the manifest of the virtual addresses. -/
def vipManifest (output : String) : String :=
  Path.join (Path.join (kubernetes output) manifestsDir) vipManifestFile

/-- The directory of the signing keys. -/
def keys (output : String) : String :=
  Path.join (kubernetes output) keysDir

/-- The path of a repository file. -/
def repositoryFile (output file : String) : String :=
  Path.join (Path.join (kubernetes output) repositoriesDir) file

/-- The path of the script. -/
def script (output : String) : String :=
  Path.join output scriptFile

/-- Where artefacts are stored. -/
structure ArtefactPaths where
  /-- The directory of the files to install from. -/
  install : String
  /-- The directory of the image bundles. -/
  images : String
  deriving Repr, DecidableEq

/-- Where artefacts are stored under a directory. -/
def ArtefactPaths.under (destination : String) : ArtefactPaths :=
  ⟨Path.join destination installDir, Path.join destination imagesDir⟩

/-! ## §3. Paths as the script sees them. -/

/-- The manifest of the virtual addresses, from where the script runs. -/
def vipManifestInScript : String :=
  kubernetesDir ++ "/" ++ manifestsDir ++ "/" ++ vipManifestFile

/-- A repository file, from where the script runs. -/
def repositoryFileInScript (file : String) : String :=
  kubernetesDir ++ "/" ++ repositoriesDir ++ "/" ++ file

/-- The signing key, from where the script runs. -/
def signingKeyInScript : String :=
  kubernetesDir ++ "/" ++ keysDir ++ "/" ++ SelinuxPolicy.signingKeyFile

end ClusterBoot.Layout
