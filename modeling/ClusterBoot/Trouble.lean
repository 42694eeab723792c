/-
  ClusterBoot.Trouble
  ────────────────────────────────
  **WHY A COMMAND DID NOT SUCCEED.**

  A trouble is a cause and the steps in which it arose, the outermost first.
  Its chain is the wording of these steps and of the cause; what the
  operating system refused has no wording of its own.
-/
import ClusterBoot.Failure
import ClusterBoot.Settings

namespace ClusterBoot

/-! ## §1. Steps. -/

/-- A step of a command. -/
inductive Step where
  /-- Reading the definition. -/
  | readingDefinition (path : String)
  /-- Understanding the definition. -/
  | parsingDefinition (path : String)
  /-- Deriving the cluster. -/
  | derivingCluster
  /-- Selecting the artefacts. -/
  | selectingArtefacts
  /-- Downloading them. -/
  | downloadingArtefacts
  /-- Resolving the SELinux policy. -/
  | resolvingPolicy
  /-- Downloading its signing key. -/
  | downloadingKey
  /-- Making a directory. -/
  | makingDirectory (path : String)
  /-- Writing a file. -/
  | writing (path : String)
  /-- Making a file executable. -/
  | settingPermissions (path : String)
  deriving Repr, DecidableEq

/-- The wording of a step that failed. -/
def Step.message : Step → String
  | readingDefinition path => "Failed to read definition file: " ++ path
  | parsingDefinition path => "Failed to parse definition file: " ++ path
  | derivingCluster => "Failed to derive cluster configuration"
  | selectingArtefacts => "Failed to select Kubernetes artefacts"
  | downloadingArtefacts => "Failed to download Kubernetes artefacts"
  | resolvingPolicy => "Failed to resolve SELinux policy"
  | downloadingKey => "Failed to download SELinux repository signing key"
  | makingDirectory path => "Failed to create directory " ++ path
  | writing path => "Failed to write " ++ path
  | settingPermissions path => "Failed to set permissions on " ++ path

/-! ## §2. Causes. -/

/-- Why a text is not an image definition. -/
inductive DefinitionFault where
  /-- A required key is missing. -/
  | missingField (key : String)
  /-- A word is none of those that are expected. -/
  | unknownVariant (word : String)
  /-- The architecture is not known; its normalized name is given. -/
  | unsupportedArch (name : String)
  /-- Anything else: wrong form, or a value of the wrong kind. -/
  | malformed
  deriving Repr, DecidableEq

/-- The wording of a fault.  A malformed definition is reported without the
place of the error. -/
def DefinitionFault.message : DefinitionFault → String
  | missingField key => "missing field \x60" ++ key ++ "\x60"
  | unknownVariant word =>
      "unknown variant \x60" ++ word ++ "\x60, expected \x60server\x60 or \x60agent\x60"
  | unsupportedArch name => (Failure.unsupportedArch name).message
  | malformed => "<toml error>"

/-- Why a step failed. -/
inductive Cause where
  /-- The cluster cannot be configured. -/
  | failure (f : Failure)
  /-- The definition is wrong. -/
  | definition (f : DefinitionFault)
  /-- The environment is wrong. -/
  | settings (f : SettingsFault)
  /-- The operating system refused. -/
  | refused
  deriving Repr, DecidableEq

/-- The wording of a cause, with that of the cause behind it. -/
def Cause.chain : Cause → List String
  | failure f =>
      match f with
      | .download _ cause => [f.message, cause.message]
      | _ => [f.message]
  | definition f => [f.message]
  | settings f => [f.message]
  | refused => []

/-! ## §3. Troubles. -/

/-- A cause and the steps in which it arose. -/
structure Trouble where
  /-- The steps, the outermost first. -/
  steps : List Step
  /-- The cause. -/
  cause : Cause
  deriving Repr, DecidableEq

namespace Trouble

/-- A cause outside any step. -/
def ofCause (cause : Cause) : Trouble := ⟨[], cause⟩

/-- A failure outside any step. -/
def ofFailure (f : Failure) : Trouble := ofCause (.failure f)

/-- The trouble as one that arose in a step. -/
def within (step : Step) (t : Trouble) : Trouble :=
  { t with steps := step :: t.steps }

/-- The wording of a trouble, the outermost step first. -/
def chain (t : Trouble) : List String :=
  t.steps.map Step.message ++ t.cause.chain

/-- The wording of the outermost step. -/
def message (t : Trouble) : String :=
  t.chain.head?.getD ""

end Trouble

end ClusterBoot
