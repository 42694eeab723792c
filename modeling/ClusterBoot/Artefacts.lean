/-
  ClusterBoot.Artefacts
  ────────────────────────────────
  **WHICH FILES OF A RELEASE AN IMAGE NEEDS.**

  A release is installed from an install script, an archive or binary with
  its check sums, and bundles of container images.  RKE2 has one bundle for
  the core and one for each network plugin, and some plugins exist for one
  architecture only; K3s has a single bundle.
-/
import ClusterBoot.Cluster

namespace ClusterBoot

/-! ## §1. Names. -/

/-- The name of the file that a distribution's install script is stored
under. -/
def Distribution.installScriptName (d : Distribution) : String :=
  d.name ++ "-install.sh"

/-- The name of an image bundle of RKE2. -/
def imageBundle (arch : Arch) (name : String) : String :=
  "rke2-images-" ++ name ++ ".linux-" ++ arch.releaseName ++ ".tar.zst"

/-- The archive or binary of a distribution. -/
def installBinary : Distribution → Arch → String
  | .rke2, arch => "rke2.linux-" ++ arch.releaseName ++ ".tar.gz"
  | .k3s, .x86_64 => "k3s"
  | .k3s, .aarch64 => "k3s-" ++ Arch.aarch64.releaseName

/-- The files that a distribution is installed from, beside its install
script. -/
def installArtefacts (d : Distribution) (arch : Arch) : List String :=
  [installBinary d arch, "sha256sum-" ++ arch.releaseName ++ ".txt"]

/-! ## §2. Image bundles of RKE2. -/

/-- A component that only exists for one architecture. -/
def requireX86 (component : String) (arch : Arch) : Except Failure Unit :=
  if arch = .aarch64 then .error (.unsupportedPlatform component arch) else .ok ()

/-- The bundle of a primary plugin, if it has one. -/
def pluginBundles (arch : Arch) (plugin : String) : Except Failure (List String) :=
  if plugin = "none" then .ok []
  else if plugin = "canal" then .ok [imageBundle arch plugin]
  else if plugin = "calico" ∨ plugin = "cilium" then do
    requireX86 plugin arch
    return [imageBundle arch plugin]
  else if plugin = "" then .error (.cni .unnamed)
  else .error (.cni (.unknown plugin))

/-- The bundle of `multus`, if it is used. -/
def multusBundles (arch : Arch) (used : Bool) : Except Failure (List String) :=
  if used then do
    requireX86 multus arch
    return [imageBundle arch multus]
  else .ok []

/-- The image bundles of RKE2 for the plugins of a cluster. -/
def imageArtefacts (arch : Arch) (plugins : Plugins) : Except Failure (List String) := do
  let primary ← pluginBundles arch plugins.primary
  let second ← multusBundles arch plugins.multus
  return imageBundle arch "core" :: primary ++ second

/-! ## §3. Selection. -/

/-- The files that an image needs. -/
structure Selection where
  /-- The distribution they belong to. -/
  distribution : Distribution
  /-- The files to install from. -/
  install : List String
  /-- The image bundles. -/
  images : List String
  deriving Repr, DecidableEq

/-- The name of the install script. -/
def Selection.installScript (s : Selection) : String :=
  s.distribution.installScriptName

/-- The archive or binary, the first of the files to install from. -/
def Selection.binary (s : Selection) : String :=
  s.install.head?.getD ""

/-- The files that a cluster with the given server document needs. -/
def select (d : Distribution) (arch : Arch) (server : RoleDocument) : Except Failure Selection :=
  match d with
  | .rke2 => do
      let plugins ← server.cni.plugins
      let images ← imageArtefacts arch plugins
      return ⟨d, installArtefacts d arch, images⟩
  | .k3s =>
      .ok ⟨d, installArtefacts d arch, ["k3s-airgap-images-" ++ arch.releaseName ++ ".tar.zst"]⟩

end ClusterBoot
