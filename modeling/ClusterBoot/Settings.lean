/-
  ClusterBoot.Settings
  ────────────────────────────────
  **WHAT THE ENVIRONMENT SETS.**

  A build is adjusted by environment variables whose names begin with
  `EDGE_BUILDER_`.  Values are trimmed, and a blank value counts as none.
  Every field of the settings depends on its own variable alone.
-/
import ClusterBoot.Cluster
import ClusterBoot.ReleaseSources
import ClusterBoot.Text.Numeral

namespace ClusterBoot

/-! ## §1. Settings. -/

/-- How a build is done. -/
structure Settings where
  /-- Where releases come from. -/
  sources : ReleaseSources
  /-- How many seconds a download may take. -/
  downloadTimeout : Nat
  /-- How a cluster is derived. -/
  cluster : ClusterOptions
  /-- Whether nothing is downloaded. -/
  skipArtefacts : Bool
  deriving Repr, DecidableEq

/-- The settings of an empty environment. -/
def Settings.default : Settings where
  sources := .default
  downloadTimeout := 600
  cluster := .default
  skipArtefacts := false

/-- A variable whose value is not understood. -/
inductive SettingsFault where
  /-- The timeout is no number of seconds. -/
  | downloadTimeout (value : String)
  /-- The token policy is not known. -/
  | clusterToken (value : String)
  /-- The address policy is not known. -/
  | tlsSan (value : String)
  deriving Repr, DecidableEq

/-- What the names of all variables begin with. -/
def variableStem : String := "EDGE_BUILDER_"

/-- The wording of a fault. -/
def SettingsFault.message : SettingsFault → String
  | downloadTimeout value => "Invalid " ++ variableStem ++ "DOWNLOAD_TIMEOUT: " ++ value
  | clusterToken value =>
      "Invalid " ++ variableStem ++ "CLUSTER_TOKEN: " ++ value
        ++ " (expected 'random' or 'placeholder')"
  | tlsSan value =>
      "Invalid " ++ variableStem ++ "TLS_SAN: " ++ value ++ " (expected 'append' or 'dedupe')"

/-! ## §2. Single variables. -/

/-- An environment: the values of its variables. -/
abbrev Environment := String → Option String

namespace Environment

/-- The trimmed value of a variable, if it is not blank. -/
def setting? (env : Environment) (name : String) : Option String :=
  match env (variableStem ++ name) with
  | some value => if Text.trim value = "" then none else some (Text.trim value)
  | none => none

/-- The value of a variable, or a default. -/
def settingOr (env : Environment) (name fallback : String) : String :=
  (env.setting? name).getD fallback

/-- The numbers of 64 bits are below this one. -/
def timeoutBound : Nat := 18446744073709551616

/-- The timeout, a number of 64 bits. -/
def downloadTimeout (env : Environment) : Except SettingsFault Nat :=
  match env.setting? "DOWNLOAD_TIMEOUT" with
  | none => .ok Settings.default.downloadTimeout
  | some value =>
      match Text.readNat? timeoutBound value.toList with
      | some n => .ok n
      | none => .error (.downloadTimeout value)

/-- The token policy. -/
def tokenPolicy (env : Environment) : Except SettingsFault TokenPolicy :=
  match env.setting? "CLUSTER_TOKEN" with
  | none => .ok .random
  | some value =>
      let word := Text.toLower value
      if word = "random" then .ok .random
      else if word = "placeholder" then .ok .placeholder
      else .error (.clusterToken value)

/-- The address policy. -/
def tlsSanPolicy (env : Environment) : Except SettingsFault TlsSanPolicy :=
  match env.setting? "TLS_SAN" with
  | none => .ok .append
  | some value =>
      let word := Text.toLower value
      if word = "append" then .ok .append
      else if word = "dedupe" ∨ word = "deduplicate" then .ok .deduplicate
      else .error (.tlsSan value)

/-- Whether nothing is downloaded; what is not understood is no. -/
def skipArtefacts (env : Environment) : Bool :=
  match env.setting? "SKIP_ARTEFACTS" with
  | none => false
  | some value => ["1", "true", "yes"].contains (Text.toLower value)

/-- Where releases come from. -/
def sources (env : Environment) : ReleaseSources where
  rke2Releases := env.settingOr "RKE2_RELEASES" ReleaseSources.default.rke2Releases
  k3sReleases := env.settingOr "K3S_RELEASES" ReleaseSources.default.k3sReleases
  rke2InstallScript := env.settingOr "RKE2_INSTALL_SCRIPT" ReleaseSources.default.rke2InstallScript
  k3sInstallScript := env.settingOr "K3S_INSTALL_SCRIPT" ReleaseSources.default.k3sInstallScript
  rke2SelinuxRepository :=
    env.settingOr "RKE2_SELINUX_REPO" ReleaseSources.default.rke2SelinuxRepository
  k3sSelinuxRepository :=
    env.settingOr "K3S_SELINUX_REPO" ReleaseSources.default.k3sSelinuxRepository
  selinuxSigningKey := env.settingOr "SELINUX_KEY" ReleaseSources.default.selinuxSigningKey

/-! ## §3. All of them. -/

/-- The settings of an environment; of several faults the first in this order
is reported: timeout, token policy, address policy. -/
def settings (env : Environment) : Except SettingsFault Settings := do
  let timeout ← env.downloadTimeout
  let token ← env.tokenPolicy
  let tlsSan ← env.tlsSanPolicy
  return {
    sources := env.sources
    downloadTimeout := timeout
    cluster := ⟨token, tlsSan⟩
    skipArtefacts := env.skipArtefacts }

end Environment

end ClusterBoot
