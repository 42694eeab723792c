/-
  ClusterBoot.Show
  ────────────────────────────────
  **SHOWING WHAT A BUILD WOULD MAKE.**

  The derived cluster is printed: its role documents, the artefacts it needs
  and its SELinux policy.  Nothing is written and nothing is requested.
-/
import ClusterBoot.Build

namespace ClusterBoot

/-- What to show. -/
structure ShowRequest where
  /-- The image. -/
  definition : ImageDefinition
  /-- The user's configuration directory. -/
  configDir : String
  /-- How a build would be done. -/
  settings : Settings
  deriving Repr, DecidableEq

namespace Show

/-- The lines about the cluster as a whole. -/
def headLines (definition : ImageDefinition) (d : Distribution) (c : Cluster) : List String :=
  ["Kubernetes " ++ definition.cluster.version ++ " (" ++ d.name ++ ", "
    ++ definition.arch.name ++ ")"]
  ++ (if c.isMultiNode then ["  Initialiser: " ++ c.initialiser] else [])
  ++ c.warnings.map Warning.line
  ++ [""]

/-- The lines of a role document: its name and its text. -/
def documentLines (d : String × RoleDocument) : List String :=
  ["# " ++ d.1, d.2.toText]

/-- The lines about the artefacts. -/
def selectionLines (s : Selection) : List String :=
  ["Install artefacts:", "  " ++ s.installScript]
  ++ s.install.map ("  " ++ ·)
  ++ ["Image artefacts:"]
  ++ s.images.map ("  " ++ ·)

/-- The line about the SELinux policy. -/
def policyLine (p : SelinuxPolicy) : String :=
  "SELinux: " ++ p.package ++ " from " ++ p.url ++ " (priority " ++ toString p.priority ++ ")"

/-- Show what a build would make. -/
def run (r : ShowRequest) (draw : Draw) : Action Trouble Unit := do
  let definition := r.definition.cluster
  let distribution ← .mapError Trouble.ofFailure
    (.ofExcept (Distribution.ofVersion definition.version))
  let tree ← .tree
  let cluster ← .mapError (Build.failureIn .derivingCluster)
    (.ofExcept (Build.clusterFor tree definition r.configDir r.settings.cluster draw))
  .printAll (headLines r.definition distribution cluster)
  .printAll (cluster.documents.flatMap documentLines)
  let selection ← .mapError Trouble.ofFailure
    (.ofExcept (select distribution r.definition.arch cluster.serverDocument))
  .printAll (selectionLines selection)
  if cluster.serverDocument.selinuxEnabled then
    let policy ← .mapError Trouble.ofFailure
      (.ofExcept (SelinuxPolicy.ofVersion definition.version r.settings.sources))
    .print (policyLine policy)

end Show

end ClusterBoot
