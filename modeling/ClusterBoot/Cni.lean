/-
  ClusterBoot.Cni
  ────────────────────────────────
  **NETWORK PLUGINS.**

  The `cni` setting selects one primary plugin, and `multus` beside it if
  `multus` comes first.
-/
import ClusterBoot.Failure
import ClusterBoot.Text.Blank
import ClusterBoot.Text.Pieces

namespace ClusterBoot

/-! ## §1. Names. -/

/-- The plugin of a cluster that does not select one. -/
def defaultPlugin : String := "canal"

/-- The plugin that is only used beside another. -/
def multus : String := "multus"

/-! ## §2. Selection. -/

/-- The plugins of a cluster. -/
structure Plugins where
  /-- The primary plugin, as it was named. -/
  primary : String
  /-- Whether `multus` is used beside it. -/
  multus : Bool
  deriving DecidableEq, Repr

/-- The entries of a setting, trimmed: those between commas of a text, or
those of a list. -/
def Setting.entries? : Setting → Except CniFault (List String)
  | .single text => .ok ((Text.pieces ',' text).map Text.trim)
  | .list items => .ok (items.map Text.trim)
  | .other value => .error (.wrongType value)
  | .absent => .error .missing

/-- The plugins that a list of entries selects. -/
def Plugins.ofEntries : List String → Except CniFault Plugins
  | [] => .error .emptyList
  | [plugin] => if plugin = ClusterBoot.multus then .error .multusAlone else .ok ⟨plugin, false⟩
  | [first, plugin] =>
      if first = ClusterBoot.multus then .ok ⟨plugin, true⟩ else .error .multusNotFirst
  | entries => .error (.tooMany entries)

/-- The plugins that a setting selects. -/
def Setting.plugins (setting : Setting) : Except Failure Plugins :=
  match setting.entries?.bind Plugins.ofEntries with
  | .ok plugins => .ok plugins
  | .error fault => .error (.cni fault)

end ClusterBoot
