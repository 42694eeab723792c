/-
  ClusterBoot.Selinux
  ────────────────────────────────
  **THE SELINUX POLICY OF A DISTRIBUTION.**

  The policy is a package from a repository that is signed with a key.  The
  package manager learns about it from a repository file.
-/
import ClusterBoot.Failure
import ClusterBoot.ReleaseSources
import ClusterBoot.Text.Lines

namespace ClusterBoot

/-! ## §1. Policies. -/

/-- The policy package of a distribution, and its repository. -/
structure SelinuxPolicy where
  /-- The name of the package. -/
  package : String
  /-- The address of the repository. -/
  url : String
  /-- Whether the packages are not signed. -/
  unsigned : Bool
  /-- The priority of the repository. -/
  priority : Nat
  deriving Repr, DecidableEq

namespace SelinuxPolicy

/-- The priority that policy repositories get. -/
def standardPriority : Nat := 99

/-- The name under which the signing key is stored. -/
def signingKeyFile : String := "rancher-public.key"

/-- Where a node keeps signing keys. -/
def signingKeyDir : String := "/etc/pki/rpm-gpg"

/-- The policy of a distribution. -/
def ofDistribution (d : Distribution) (sources : ReleaseSources) : SelinuxPolicy :=
  ⟨d.name ++ "-selinux", sources.selinuxRepository d, false, standardPriority⟩

/-- The policy for a release version. -/
def ofVersion (version : String) (sources : ReleaseSources) : Except Failure SelinuxPolicy := do
  return ofDistribution (← Distribution.ofVersion version) sources

/-! ## §2. The repository file. -/

/-- The name of the repository file. -/
def repositoryFile (p : SelinuxPolicy) : String :=
  p.package ++ ".repo"

/-- The lines about signatures. -/
def signatureLines (p : SelinuxPolicy) : List String :=
  if p.unsigned then ["gpgcheck=0"]
  else ["gpgcheck=1", "gpgkey=file://" ++ signingKeyDir ++ "/" ++ signingKeyFile]

/-- The lines of the repository file. -/
def repositoryLines (p : SelinuxPolicy) : List String :=
  ["[" ++ p.package ++ "]",
   "name=" ++ p.package,
   "baseurl=" ++ p.url,
   "enabled=1",
   "autorefresh=0",
   "priority=" ++ toString p.priority] ++ p.signatureLines

/-- The repository file. -/
def repositoryText (p : SelinuxPolicy) : String :=
  Text.unlines p.repositoryLines

end SelinuxPolicy

end ClusterBoot
