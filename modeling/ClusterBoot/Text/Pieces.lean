/-
  ClusterBoot.Text.Pieces
  ────────────────────────────────
  **CUTTING A TEXT AT A SEPARATOR, AND LOOKING FOR A TEXT IN ANOTHER.**

  A text with `n` separators has `n + 1` pieces, some of them possibly
  empty; joining the pieces with the separator gives the text back.
-/

namespace ClusterBoot.Text

/-! ## §1. Pieces. -/

/-- The pieces of a list of characters between the occurrences of `sep`. -/
def piecesOf (sep : Char) : List Char → List (List Char)
  | [] => [[]]
  | c :: r =>
      if c = sep then [] :: piecesOf sep r
      else
        match piecesOf sep r with
        | [] => [[c]]
        | p :: ps => (c :: p) :: ps

/-- The pieces of a text between the occurrences of `sep`. -/
def pieces (sep : Char) (s : String) : List String :=
  (piecesOf sep s.toList).map String.ofList

/-! ## §2. Occurrences. -/

/-- Whether `needle` occurs in the list of characters. -/
def occursIn (needle : List Char) : List Char → Bool
  | [] => needle.isEmpty
  | c :: r => needle.isPrefixOf (c :: r) || occursIn needle r

/-- Whether the text `needle` occurs in the text `s`. -/
def contains (s needle : String) : Bool :=
  occursIn needle.toList s.toList

/-- The text with every `c` replaced by `replacement`. -/
def replaceChar (c : Char) (replacement : List Char) (cs : List Char) : List Char :=
  cs.flatMap fun d => if d = c then replacement else [d]

/-- The list of characters without the occurrences of `c` at its end. -/
def dropTrailing (c : Char) (cs : List Char) : List Char :=
  (cs.reverse.dropWhile (· = c)).reverse

end ClusterBoot.Text
