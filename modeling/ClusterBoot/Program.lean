/-
  ClusterBoot.Program
  ────────────────────────────────
  **RUNNING A COMMAND LINE.**

  The words are read first, then the environment with the variables of a
  `.env` file, then the definition; only then does the command itself run.
-/
import ClusterBoot.CommandLine
import ClusterBoot.Definition
import ClusterBoot.EnvironmentFile
import ClusterBoot.Http
import ClusterBoot.Show

namespace ClusterBoot.Program

/-- Why a command line was not carried out. -/
inductive Halt where
  /-- Its words say something else. -/
  | usage (u : Usage)
  /-- The command did not succeed. -/
  | trouble (t : Trouble)
  deriving Repr, DecidableEq

/-- The name of the file with variables. -/
def environmentFile : String := ".env"

/-- The variables of the environment and of the file. -/
def effectiveVariables (tree : FileTree) (given : Variables) : Variables :=
  match tree.read environmentFile with
  | .ok content => EnvironmentFile.load given content
  | .error _ => given

/-- The settings of the environment. -/
def loadSettings (given : Variables) : Action Trouble Settings := do
  let tree ← .tree
  .mapError (fun f => Trouble.ofCause (.settings f))
    (.ofExcept (effectiveVariables tree given).environment.settings)

/-- The definition in a file. -/
def loadDefinition (path : String) : Action Trouble ImageDefinition := do
  let tree ← .tree
  .ofExcept (Definition.load path (Build.textAt tree path))

/-- Carry out a command. -/
def carryOut (web : Http.Web) (given : Variables) (draw : Draw) :
    Command → Action Trouble Unit
  | .build definition configDir output skip => do
      let settings ← loadSettings given
      let settings := { settings with skipArtefacts := settings.skipArtefacts || skip }
      let image ← loadDefinition definition
      let report ← Build.run (Http.downloader web) ⟨image, configDir, output, settings⟩ draw
      if report.isNone then
        .print ("⚠️  No Kubernetes version in " ++ definition ++ ", nothing to do")
  | .inspect definition configDir => do
      let settings ← loadSettings given
      let image ← loadDefinition definition
      Show.run ⟨image, configDir, settings⟩ draw

/-- Carry out a command line. -/
def run (web : Http.Web) (given : Variables) (draw : Draw) (words : List String) :
    Action Halt Unit := do
  let command ← .mapError Halt.usage (.ofExcept (CommandLine.read words))
  (carryOut web given draw command).mapError .trouble

end ClusterBoot.Program
