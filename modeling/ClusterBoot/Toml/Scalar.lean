/-
  ClusterBoot.Toml.Scalar
  ────────────────────────────────
  **UNQUOTED VALUES.**

  Truth values, whole numbers in four radices, floating-point numbers, and
  dates and times.  Underscores may separate digits; decimal numbers have no
  leading zeros.
-/
import ClusterBoot.Text.Numeral
import ClusterBoot.Text.Pieces
import ClusterBoot.Toml.Value

namespace ClusterBoot.Toml

/-! ## §1. Whole numbers. -/

/-- The digits of a number without the underscores between them: there is at
least one digit, and every underscore stands between two. -/
def ungroup (isDigit : Char → Bool) (cs : List Char) : Option (List Char) :=
  let groups := Text.piecesOf '_' cs
  if groups.all fun g => !g.isEmpty && g.all isDigit then some groups.flatten else none

/-- The number that grouped digits of a radix spell. -/
def grouped? (radix : Nat) (cs : List Char) : Option Nat :=
  (ungroup (fun c => (Text.digitValue? radix c).isSome) cs).bind (Text.digits? radix)

/-- Whether decimal digits have no leading zero. -/
def isTrimmed : List Char → Bool
  | ['0'] => true
  | '0' :: _ => false
  | _ => true

/-- A decimal number without a sign. -/
def decimal? (cs : List Char) : Option Nat :=
  if isTrimmed cs then grouped? 10 cs else none

/-- The text without a sign, and whether the sign was a minus. -/
def splitSign : List Char → Bool × List Char
  | '+' :: r => (false, r)
  | '-' :: r => (true, r)
  | cs => (false, cs)

/-- A whole number. -/
def int? (cs : List Char) : Option Int :=
  match cs with
  | '0' :: 'x' :: r => (grouped? 16 r).map Int.ofNat
  | '0' :: 'o' :: r => (grouped? 8 r).map Int.ofNat
  | '0' :: 'b' :: r => (grouped? 2 r).map Int.ofNat
  | _ =>
      let (negative, digits) := splitSign cs
      (decimal? digits).map fun n => if negative then -Int.ofNat n else Int.ofNat n

/-! ## §2. Floating-point numbers. -/

/-- Whether `digits` times ten to the power `exponent` rounds to more than
the largest number of 64 bits. -/
def isTooLarge (digits : List Char) (exponent : Int) : Bool :=
  let digits := digits.dropWhile (· = '0')
  match Text.digits? 10 digits with
  | none => false
  | some m =>
      let magnitude := (digits.length : Int) + exponent
      if 400 < magnitude then true
      else if magnitude < 300 then false
      else
        let limit := Nat.pow 2 1024 - Nat.pow 2 970
        if 0 ≤ exponent then limit ≤ m * Nat.pow 10 exponent.toNat
        else limit * Nat.pow 10 (-exponent).toNat ≤ m

/-- The exponent of a floating-point number; none is zero. -/
def exponent? : List Char → Option Int
  | [] => some 0
  | c :: r =>
      if c = 'e' || c = 'E' then
        let (negative, digits) := splitSign r
        (grouped? 10 digits).map fun n => if negative then -Int.ofNat n else Int.ofNat n
      else none

/-- A floating-point number with a fraction or an exponent: whether it is too
large. -/
def float? (cs : List Char) : Option Bool := do
  let (_, body) := splitSign cs
  if body = ['i', 'n', 'f'] || body = ['n', 'a', 'n'] then return false
  else
    let isMantissa := fun c => Text.isDigit c || c = '_'
    let whole := body.takeWhile isMantissa
    let _ ← decimal? whole
    let wholeDigits ← ungroup Text.isDigit whole
    match body.dropWhile isMantissa with
    | '.' :: r =>
        let fraction ← ungroup Text.isDigit (r.takeWhile isMantissa)
        let exponent ← exponent? (r.dropWhile isMantissa)
        return isTooLarge (wholeDigits ++ fraction) (exponent - fraction.length)
    | [] => none
    | r =>
        let exponent ← exponent? r
        return isTooLarge wholeDigits exponent

/-! ## §3. Dates and times. -/

/-- Exactly `n` digits, then the rest. -/
def readDigits (n : Nat) (cs : List Char) : Option (Nat × List Char) :=
  let digits := cs.take n
  if digits.length = n && digits.all Text.isDigit then
    (Text.digits? 10 digits).map fun v => (v, cs.drop n)
  else none

/-- Two digits within bounds, then the rest. -/
def readPair (low high : Nat) (cs : List Char) : Option (Nat × List Char) := do
  let (v, r) ← readDigits 2 cs
  if low ≤ v && v ≤ high then return (v, r) else none

/-- How many days a month has. -/
def daysIn (year month : Nat) : Nat :=
  if month = 2 then
    if (year % 4 = 0 && year % 100 ≠ 0) || year % 400 = 0 then 29 else 28
  else if [4, 6, 9, 11].contains month then 30
  else 31

/-- Read a date. -/
def readDate (cs : List Char) : Option (List Char) := do
  let (year, r) ← readDigits 4 cs
  match r with
  | '-' :: r =>
      let (month, r) ← readPair 1 12 r
      match r with
      | '-' :: r =>
          let (_, r) ← readPair 1 (daysIn year month) r
          return r
      | _ => none
  | _ => none

/-- Read the fraction of a second, if there is one. -/
def readFraction : List Char → Option (List Char)
  | '.' :: r =>
      if (r.takeWhile Text.isDigit).isEmpty then none else some (r.dropWhile Text.isDigit)
  | cs => some cs

/-- Read a time; seconds may be left out. -/
def readTime (cs : List Char) : Option (List Char) := do
  let (_, r) ← readPair 0 23 cs
  match r with
  | ':' :: r =>
      let (_, r) ← readPair 0 59 r
      match r with
      | ':' :: r =>
          let (_, r) ← readPair 0 60 r
          readFraction r
      | r => return r
  | _ => none

/-- Whether a text is a distance from universal time. -/
def isOffset : List Char → Bool
  | ['Z'] | ['z'] => true
  | c :: r =>
      (c = '+' || c = '-') &&
        match readPair 0 23 r with
        | some (_, ':' :: r) => ((readPair 0 59 r).map (·.2)) = some []
        | _ => false
  | [] => false

/-- Whether a text is a date, a time, or both. -/
def isDatetime (cs : List Char) : Bool :=
  match readDate cs with
  | some [] => true
  | some (c :: r) =>
      (c = 'T' || c = 't' || c = ' ') &&
        match readTime r with
        | some [] => true
        | some offset => isOffset offset
        | none => false
  | none => readTime cs = some []

/-! ## §4. Any of them. -/

/-- The value of an unquoted text. -/
def scalar? (cs : List Char) : Option Value :=
  if cs = ['t', 'r', 'u', 'e'] then some (.bool true)
  else if cs = ['f', 'a', 'l', 's', 'e'] then some (.bool false)
  else
    match int? cs with
    | some n => some (.int n)
    | none =>
        match float? cs with
        | some tooLarge => some (.float tooLarge)
        | none => if isDatetime cs then some .datetime else none

/-- A character that ends an unquoted value. -/
def endsScalar (c : Char) : Bool :=
  [' ', '\t', '\n', '\r', ',', ']', '\x7d', '#', '=', '[', '\x7b', '"', '\''].contains c

/-- Read an unquoted value.  A date and a time may have one space between
them. -/
def readScalar (cs : List Char) : Option (Value × List Char) :=
  let word := cs.takeWhile fun c => !endsScalar c
  let rest := cs.dropWhile fun c => !endsScalar c
  match readDate word, rest with
  | some [], ' ' :: d :: r =>
      if Text.isDigit d then
        let time := (d :: r).takeWhile fun c => !endsScalar c
        (scalar? (word ++ ' ' :: time)).map fun v => (v, (d :: r).dropWhile fun c => !endsScalar c)
      else (scalar? word).map fun v => (v, rest)
  | _, _ => (scalar? word).map fun v => (v, rest)

end ClusterBoot.Toml
