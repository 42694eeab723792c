/-
  ClusterBoot.Text.Hex
  ────────────────────────────────
  **BYTES AS HEXADECIMAL DIGITS.**

  `encode` writes two lower-case digits per byte, the high one first;
  `decode` is its inverse on such texts and refuses everything else.
-/

namespace ClusterBoot.Text.Hex

/-! ## §1. One digit. -/

/-- The lower-case digit of a number below sixteen. -/
def digit (n : Nat) : Char :=
  if n < 10 then Char.ofNat (48 + n) else Char.ofNat (87 + n)

/-- The value of a lower-case digit. -/
def value? (c : Char) : Option Nat :=
  let n := c.toNat
  if 48 ≤ n && n ≤ 57 then some (n - 48)
  else if 97 ≤ n && n ≤ 102 then some (n - 87)
  else none

/-! ## §2. Bytes. -/

/-- The two digits of a byte, the high one first. -/
def encodeByte (b : UInt8) : List Char :=
  [digit (b.toNat / 16), digit (b.toNat % 16)]

/-- The digits of a list of bytes. -/
def encode (bytes : List UInt8) : List Char :=
  bytes.flatMap encodeByte

/-- The bytes that a list of digits stands for. -/
def decode : List Char → Option (List UInt8)
  | [] => some []
  | [_] => none
  | h :: l :: r =>
      match value? h, value? l with
      | some x, some y => (decode r).map (UInt8.ofNat (16 * x + y) :: ·)
      | _, _ => none

/-- A number in hexadecimal digits, without leading zeros. -/
def ofNat (n : Nat) : List Char :=
  (Nat.toDigits 16 n)

end ClusterBoot.Text.Hex
