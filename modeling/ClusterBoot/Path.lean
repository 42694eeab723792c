/-
  ClusterBoot.Path
  ────────────────────────────────
  **NAMES OF FILES AS TEXTS.**

  A path is a text whose components are separated by slashes.  Joining keeps
  the text of both parts; an absolute second part stands for itself.  The
  parent and the file name look at the components: empty ones do not count,
  nor does a single point, except at the start.
-/
import ClusterBoot.Text.Pieces

namespace ClusterBoot.Path

/-! ## §1. Joining. -/

/-- Whether a path is absolute. -/
def isAbsolute (path : String) : Bool :=
  path.toList.head? = some '/'

/-- The path `second`, seen from `base`. -/
def join (base second : String) : String :=
  if isAbsolute second then second
  else if base = "" ∨ base.toList.getLast? = some '/' then base ++ second
  else base ++ "/" ++ second

/-! ## §2. Components. -/

/-- Whether a piece of a path is a component. -/
def isComponent (first : Bool) (piece : String) : Bool :=
  piece ≠ "" && (first || piece ≠ ".")

/-- Drop the pieces at the end that are no components; pieces come last
first. -/
def dropIdle : List String → List String
  | [] => []
  | [p] => if isComponent true p then [p] else []
  | p :: q :: ps => if isComponent false p then p :: q :: ps else dropIdle (q :: ps)

/-- The pieces of a path up to its last component, last first. -/
def backward (path : String) : List String :=
  dropIdle (Text.pieces '/' path).reverse

/-- The text of pieces that come last first. -/
def ofBackward (pieces : List String) : String :=
  "/".intercalate pieces.reverse

/-- The path without its last component; none if it has no component. -/
def parent? (path : String) : Option String :=
  match backward path with
  | [] => none
  | _ :: ps =>
      match dropIdle ps with
      | [] => if isAbsolute path then some "/" else some ""
      | qs => some (ofBackward qs)

/-- The last component of a path, unless it is one or two points. -/
def fileName? (path : String) : Option String :=
  match backward path with
  | p :: _ => if p = "." ∨ p = ".." then none else some p
  | [] => none

/-- The path of another file beside the file at a path. -/
def beside (path name : String) : String :=
  match fileName? path, parent? path with
  | some _, some parent => join parent name
  | _, _ => join path name

/-- The path of the file that a download is received in before it is
complete. -/
def partOf (path : String) : String :=
  beside path ((fileName? path).getD "" ++ ".part")

end ClusterBoot.Path
