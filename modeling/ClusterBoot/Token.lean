/-
  ClusterBoot.Token
  ────────────────────────────────
  **THE SECRET THAT NODES JOIN WITH.**

  Where the user gives no secret, one is drawn: 32 random bytes, written as
  64 hexadecimal digits.  A fixed placeholder can stand in for it where the
  same output every time matters more than secrecy.
-/
import ClusterBoot.Text.Hex

namespace ClusterBoot

/-- A draw of random bytes. -/
abbrev Draw := Vector UInt8 32

/-- The token that a draw makes. -/
def Draw.token (draw : Draw) : String :=
  String.ofList (Text.Hex.encode draw.toList)

/-- The token that stands in for a random one. -/
def placeholderToken : String := "edge-cluster-token"

/-- Where a missing token comes from. -/
inductive TokenPolicy where
  /-- It is drawn. -/
  | random
  /-- It is the placeholder. -/
  | placeholder
  deriving Repr, DecidableEq

/-- The token that a policy gives. -/
def TokenPolicy.token : TokenPolicy → Draw → String
  | random, draw => draw.token
  | placeholder, _ => placeholderToken

end ClusterBoot
