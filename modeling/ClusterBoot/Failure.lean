/-
  ClusterBoot.Failure
  ────────────────────────────────
  **WHY A CLUSTER CANNOT BE CONFIGURED.**

  A failure is a cause; its wording is `Failure.message`.  A download that
  failed is the cause of a failure, with a wording of its own.
-/
import ClusterBoot.Platform
import ClusterBoot.RoleDocument

namespace ClusterBoot

open Yaml (Value)

/-! ## §1. Network plugins. -/

/-- Why a `cni` setting does not select network plugins. -/
inductive CniFault where
  /-- The setting is missing. -/
  | missing
  /-- The setting is neither a text nor a list of texts. -/
  | wrongType (value : Value)
  /-- The setting is an empty list. -/
  | emptyList
  /-- `multus` stands alone. -/
  | multusAlone
  /-- There are two plugins and `multus` is not the first. -/
  | multusNotFirst
  /-- There are more than two entries. -/
  | tooMany (entries : List String)
  /-- The primary plugin is the empty text. -/
  | unnamed
  /-- The primary plugin is not known. -/
  | unknown (plugin : String)
  deriving DecidableEq, Repr

/-- The wording of a fault. -/
def CniFault.message : CniFault → String
  | missing => "cni not configured"
  | wrongType value => "unsupported type " ++ value.describe
  | emptyList => "no cni specified"
  | multusAlone => "multus must be used alongside another primary cni selection"
  | multusNotFirst => "multiple cni values are only allowed if multus is the first one"
  | tooMany entries => "unsupported cni setup: " ++ ",".intercalate entries
  | unnamed => "cni not specified"
  | unknown plugin => "unsupported cni '" ++ plugin ++ "'"

/-! ## §2. Downloads. -/

/-- Why a download did not arrive. -/
inductive DownloadFailure where
  /-- There was no answer. -/
  | request (url : String)
  /-- The answer was not the file. -/
  | status (url : String) (code : Nat)
  /-- The file could not be received or stored. -/
  | write (path : String)
  deriving DecidableEq, Repr

/-- The wording of a failed download. -/
def DownloadFailure.message : DownloadFailure → String
  | request url => "request to " ++ url ++ " failed"
  | status url code => "unexpected status " ++ toString code ++ " from " ++ url
  | write path => "writing " ++ path

/-! ## §3. Failures. -/

/-- Why a cluster cannot be configured. -/
inductive Failure where
  /-- A file is not a role document. -/
  | documentFault (path : String) (fault : DocumentFault)
  /-- A file cannot be read as text. -/
  | documentUnreadable (path : String)
  /-- No node can initialise the cluster. -/
  | noInitialiser
  /-- The network plugins are not selected properly. -/
  | cni (fault : CniFault)
  /-- A component does not exist for the architecture. -/
  | unsupportedPlatform (component : String) (arch : Arch)
  /-- The architecture is not known; its normalized name is given. -/
  | unsupportedArch (name : String)
  /-- The release version has no distribution in it. -/
  | unknownDistribution (version : String)
  /-- An artefact was not downloaded. -/
  | download (artefact : String) (cause : DownloadFailure)
  /-- There is no template of that name. -/
  | unknownTemplate (name : String)
  deriving DecidableEq, Repr

/-- The wording of a failure. -/
def Failure.message : Failure → String
  | documentFault path fault => "parsing kubernetes config '" ++ path ++ "': " ++ fault.message
  | documentUnreadable path => "reading kubernetes config '" ++ path ++ "'"
  | noInitialiser => "failed determining cluster initialiser: no server node found"
  | cni fault => "invalid cni: " ++ fault.message
  | unsupportedPlatform component arch =>
      component ++ " is not supported on " ++ arch.name ++ " platforms"
  | unsupportedArch name =>
      "unsupported architecture '" ++ name ++ "' (expected x86_64 or aarch64)"
  | unknownDistribution version => "unknown kubernetes distribution in version '" ++ version ++ "'"
  | download artefact _ => "downloading artefact '" ++ artefact ++ "'"
  | unknownTemplate name => "rendering template '" ++ name ++ "'"

/-- The distribution of a release version, or why there is none. -/
def Distribution.ofVersion (version : String) : Except Failure Distribution :=
  match ofVersion? version with
  | some d => .ok d
  | none => .error (.unknownDistribution version)

/-- The architecture with a name, or why there is none. -/
def Arch.ofText (text : String) : Except Failure Arch :=
  match ofText? text with
  | some a => .ok a
  | none => .error (.unsupportedArch (normalize text))

/-! ## §4. Files of role documents. -/

/-- What reading a file as text gives. -/
inductive FileText where
  /-- There is no such file. -/
  | missing
  /-- There is something, but no text can be read from it. -/
  | unreadable
  /-- The text of the file. -/
  | text (s : String)
  deriving DecidableEq, Repr

/-- The role document in the file at a path; a missing file is the empty
document. -/
def RoleDocument.load (path : String) : FileText → Except Failure RoleDocument
  | .missing => .ok .empty
  | .unreadable => .error (.documentUnreadable path)
  | .text s =>
      match RoleDocument.ofText s with
      | .ok doc => .ok doc
      | .error fault => .error (.documentFault path fault)

end ClusterBoot
