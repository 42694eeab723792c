/-
  ClusterBoot.Text.Numeral
  ────────────────────────────────
  **READING WHOLE NUMBERS, AND RECOGNISING FLOATING-POINT NUMBERS.**

  A whole number is an optional sign and at least one digit of the radix,
  without separators; leading zeros are fine.  `readInt64?` and `readNat?`
  refuse what does not fit.  `isFloat` recognises the decimal and scientific
  spellings and the words for infinity and not-a-number; the value itself is
  never needed, because such numbers are kept as they were written.
-/

namespace ClusterBoot.Text

/-! ## §1. Digits. -/

/-- The value of a digit of the radix (at most 16), in either letter case. -/
def digitValue? (radix : Nat) (c : Char) : Option Nat :=
  let n := c.toNat
  let v :=
    if 48 ≤ n && n ≤ 57 then n - 48
    else if 65 ≤ n && n ≤ 70 then n - 55
    else if 97 ≤ n && n ≤ 102 then n - 87
    else radix
  if v < radix then some v else none

/-- The number that a list of digits spells after the number `acc`. -/
def digitsFrom? (radix : Nat) : Nat → List Char → Option Nat
  | acc, [] => some acc
  | acc, c :: r =>
      match digitValue? radix c with
      | some v => digitsFrom? radix (acc * radix + v) r
      | none => none

/-- The number that a non-empty list of digits spells. -/
def digits? (radix : Nat) : List Char → Option Nat
  | [] => none
  | cs => digitsFrom? radix 0 cs

/-- A decimal digit. -/
def isDigit (c : Char) : Bool :=
  48 ≤ c.toNat && c.toNat ≤ 57

/-! ## §2. Numbers with a sign. -/

/-- An optional sign and digits of the radix. -/
def signed? (radix : Nat) : List Char → Option Int
  | '+' :: r => (digits? radix r).map Int.ofNat
  | '-' :: r => (digits? radix r).map fun n => -Int.ofNat n
  | cs => (digits? radix cs).map Int.ofNat

/-- A number as a signed 64-bit integer, if it fits. -/
def toInt64? (i : Int) : Option Int64 :=
  if -9223372036854775808 ≤ i ∧ i ≤ 9223372036854775807 then some (Int64.ofInt i) else none

/-- Read a signed 64-bit integer in the radix. -/
def readInt64? (radix : Nat) (cs : List Char) : Option Int64 :=
  (signed? radix cs).bind toInt64?

/-- Read an unsigned decimal number below `bound`; a plus sign may precede. -/
def readNat? (bound : Nat) (cs : List Char) : Option Nat :=
  let digits := match cs with
    | '+' :: r => r
    | r => r
  (digits? 10 digits).bind fun n => if n < bound then some n else none

/-! ## §3. Floating-point spellings. -/

/-- The exponent of a floating-point number, or nothing. -/
def isExponent : List Char → Bool
  | [] => true
  | c :: r =>
      (c == 'e' || c == 'E') &&
        let digits := match r with
          | '+' :: d => d
          | '-' :: d => d
          | d => d
        !digits.isEmpty && digits.all isDigit

/-- Digits with at most one point among them and at least one digit, then an
optional exponent. -/
def isDecimal (cs : List Char) : Bool :=
  let whole := cs.takeWhile isDigit
  match cs.dropWhile isDigit with
  | '.' :: r =>
      let fraction := r.takeWhile isDigit
      (!whole.isEmpty || !fraction.isEmpty) && isExponent (r.dropWhile isDigit)
  | r => !whole.isEmpty && isExponent r

/-- The ASCII capital letters as small letters. -/
def asciiLower (c : Char) : Char :=
  if 65 ≤ c.toNat && c.toNat ≤ 90 then Char.ofNat (c.toNat + 32) else c

/-- The words for infinity and not-a-number, in any letter case. -/
def isFloatWord (cs : List Char) : Bool :=
  let w := cs.map asciiLower
  w == ['i', 'n', 'f'] || w == ['i', 'n', 'f', 'i', 'n', 'i', 't', 'y'] || w == ['n', 'a', 'n']

/-- The spelling of a floating-point number, with an optional sign. -/
def isFloat (cs : List Char) : Bool :=
  let body := match cs with
    | '+' :: r => r
    | '-' :: r => r
    | r => r
  isFloatWord body || isDecimal body

end ClusterBoot.Text
