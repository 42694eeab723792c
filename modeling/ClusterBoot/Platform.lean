/-
  ClusterBoot.Platform
  ────────────────────────────────
  **WHAT A CLUSTER RUNS ON.**

  The Kubernetes distribution is part of the release version, as in
  `v1.30.3+rke2r1`; the CPU architecture is a setting of the image.
-/
import ClusterBoot.Text.Blank
import ClusterBoot.Text.LetterCase
import ClusterBoot.Text.Pieces

namespace ClusterBoot

/-! ## §1. Distributions. -/

/-- A Kubernetes distribution. -/
inductive Distribution where
  | rke2
  | k3s
  deriving Repr, DecidableEq

namespace Distribution

/-- The name of a distribution, as it occurs in release versions. -/
def name : Distribution → String
  | rke2 => "rke2"
  | k3s => "k3s"

/-- The distribution of a release version: the first of `rke2` and `k3s`
whose name occurs in it. -/
def ofVersion? (version : String) : Option Distribution :=
  if Text.contains version "rke2" then some rke2
  else if Text.contains version "k3s" then some k3s
  else none

/-- The port at which further servers and agents join a cluster. -/
def joinPort : Distribution → Nat
  | rke2 => 9345
  | k3s => 6443

end Distribution

/-! ## §2. Architectures. -/

/-- A CPU architecture. -/
inductive Arch where
  | x86_64
  | aarch64
  deriving Repr, DecidableEq

namespace Arch

/-- The name of an architecture. -/
def name : Arch → String
  | x86_64 => "x86_64"
  | aarch64 => "aarch64"

/-- The name that release artefacts have for an architecture. -/
def releaseName : Arch → String
  | x86_64 => "amd64"
  | aarch64 => "arm64"

/-- A text as it is compared with the names of the architectures: trimmed, in
small letters. -/
def normalize (text : String) : String :=
  Text.toLower (Text.trim text)

/-- The architecture with a name of either kind, in any letter case. -/
def ofText? (text : String) : Option Arch :=
  let name := normalize text
  if name = "x86_64" ∨ name = "amd64" then some x86_64
  else if name = "aarch64" ∨ name = "arm64" then some aarch64
  else none

end Arch

end ClusterBoot
