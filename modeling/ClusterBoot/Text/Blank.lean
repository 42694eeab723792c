/-
  ClusterBoot.Text.Blank
  ────────────────────────────────
  **WHITE SPACE AT THE ENDS OF A TEXT.**

  Names, addresses and settings written by people carry stray white space.
  White space is the Unicode property `White_Space`, so a no-break space is
  trimmed and a zero-width space is kept.  Everything is defined on lists of
  characters; `trim` is the same function on strings.
-/

namespace ClusterBoot.Text

/-! ## §1. The property. -/

/-- The Unicode property `White_Space`. -/
def isBlank (c : Char) : Bool :=
  let n := c.toNat
  (9 ≤ n && n ≤ 13) || n == 0x20 || n == 0x85 || n == 0xA0 || n == 0x1680
    || (0x2000 ≤ n && n ≤ 0x200A) || n == 0x2028 || n == 0x2029
    || n == 0x202F || n == 0x205F || n == 0x3000

/-! ## §2. Trimming. -/

/-- A list of characters without the white space at its end. -/
def trimEndChars (cs : List Char) : List Char :=
  (cs.reverse.dropWhile isBlank).reverse

/-- A list of characters without the white space at its two ends. -/
def trimChars (cs : List Char) : List Char :=
  trimEndChars (cs.dropWhile isBlank)

/-- A text without the white space at its two ends. -/
def trim (s : String) : String :=
  String.ofList (trimChars s.toList)

end ClusterBoot.Text
