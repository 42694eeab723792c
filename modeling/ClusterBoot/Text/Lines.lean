/-
  ClusterBoot.Text.Lines
  ────────────────────────────────
  **TEXTS MADE OF LINES.**
-/

namespace ClusterBoot.Text

/-- The text that consists of the lines, each with a line feed after it. -/
def unlines (lines : List String) : String :=
  String.join (lines.map (· ++ "\n"))

end ClusterBoot.Text
