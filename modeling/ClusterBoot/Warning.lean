/-
  ClusterBoot.Warning
  ────────────────────────────────
  **WHAT IS ODD ABOUT A CLUSTER BUT DOES NOT STOP IT.**
-/
import ClusterBoot.RoleDocument

namespace ClusterBoot

open Yaml (Value)

/-- Something odd about a cluster. -/
inductive Warning where
  /-- An empty address was offered to `tls-san` and left out. -/
  | emptyAddress
  /-- The `tls-san` value was neither text nor list and was dropped. -/
  | discardedTlsSan (old : Value)
  /-- A cluster of several nodes has no virtual address to join at. -/
  | missingApiVip
  deriving DecidableEq, Repr

/-- The wording of a warning. -/
def Warning.message : Warning → String
  | emptyAddress => "empty address, skipping adding it to " ++ tlsSanKey
  | discardedTlsSan old =>
      "ignoring invalid " ++ tlsSanKey ++ " value " ++ old.describe
        ++ ", replacing it with a new list"
  | missingApiVip =>
      "no API VIP configured, agents and secondary servers will not have a join address"

end ClusterBoot
