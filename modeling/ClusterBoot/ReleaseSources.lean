/-
  ClusterBoot.ReleaseSources
  ────────────────────────────────
  **WHERE RELEASES COME FROM.**

  The addresses of the releases, install scripts and SELinux packages of both
  distributions.  The URL of an artefact is the base address without its
  trailing slashes, the release version with every plus sign escaped, and the
  name of the artefact.
-/
import ClusterBoot.Platform
import ClusterBoot.Text.Pieces

namespace ClusterBoot

/-- Where releases come from. -/
structure ReleaseSources where
  /-- The releases of RKE2. -/
  rke2Releases : String
  /-- The releases of K3s. -/
  k3sReleases : String
  /-- The install script of RKE2. -/
  rke2InstallScript : String
  /-- The install script of K3s. -/
  k3sInstallScript : String
  /-- The SELinux packages for RKE2. -/
  rke2SelinuxRepository : String
  /-- The SELinux packages for K3s. -/
  k3sSelinuxRepository : String
  /-- The key that signs the SELinux packages. -/
  selinuxSigningKey : String
  deriving Repr, DecidableEq

namespace ReleaseSources

/-- The public addresses. -/
def default : ReleaseSources where
  rke2Releases := "https://github.com/rancher/rke2/releases/download"
  k3sReleases := "https://github.com/k3s-io/k3s/releases/download"
  rke2InstallScript := "https://get.rke2.io"
  k3sInstallScript := "https://get.k3s.io"
  rke2SelinuxRepository := "https://rpm.rancher.io/rke2/stable/common/slemicro/noarch"
  k3sSelinuxRepository := "https://rpm.rancher.io/k3s/stable/common/slemicro/noarch"
  selinuxSigningKey := "https://rpm.rancher.io/public.key"

/-- The releases of a distribution. -/
def releases (s : ReleaseSources) : Distribution → String
  | .rke2 => s.rke2Releases
  | .k3s => s.k3sReleases

/-- The install script of a distribution. -/
def installScript (s : ReleaseSources) : Distribution → String
  | .rke2 => s.rke2InstallScript
  | .k3s => s.k3sInstallScript

/-- The SELinux packages for a distribution. -/
def selinuxRepository (s : ReleaseSources) : Distribution → String
  | .rke2 => s.rke2SelinuxRepository
  | .k3s => s.k3sSelinuxRepository

/-- The part of an artefact's URL that names the release. -/
def versionPart (version : String) : List Char :=
  Text.replaceChar '+' ['%', '2', 'B'] version.toList

/-- The URL of an artefact under a base address. -/
def artefactUrlUnder (base version artefact : String) : String :=
  String.ofList (Text.dropTrailing '/' base.toList ++ ['/'] ++ versionPart version ++ ['/']
    ++ artefact.toList)

/-- The URL of an artefact of a release. -/
def artefactUrl (s : ReleaseSources) (d : Distribution) (version artefact : String) : String :=
  artefactUrlUnder (s.releases d) version artefact

end ReleaseSources

end ClusterBoot
