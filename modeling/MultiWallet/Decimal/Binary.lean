import MultiWallet.Decimal.Text

set_option autoImplicit false

namespace MultiWallet.Decimal

structure Double where
  significand : Nat
  exponent : Int
deriving DecidableEq, Repr

namespace Double

def lowestExponent : Int := -1074

-- Numerator and denominator of `n / d * base ^ k`.
def scaleBy (base : Nat) (n d : Nat) (k : Int) : Nat × Nat :=
  if 0 ≤ k then (n * base ^ k.toNat, d) else (n, d * base ^ k.natAbs)

def roundAt (n d : Nat) (exponent : Int) : Double :=
  let (n, d) := scaleBy 2 n d (-exponent)
  { significand := divideHalfEven n d, exponent }

def ofRatio (n d : Nat) : Double :=
  if n = 0 then { significand := 0, exponent := lowestExponent }
  else
    let exponent := max ((n.log2 : Int) - d.log2 - 53) lowestExponent
    let fine := roundAt n d exponent
    if fine.significand < 2 ^ 53 then fine else roundAt n d (exponent + 1)

structure Digits where
  digits : Nat
  exponent : Int
deriving DecidableEq, Repr

def digitCount (n : Nat) : Nat := (Nat.toDigits 10 n).length

-- The largest power of ten that is not above `n / d`.
def leadingPower (n d : Nat) : Int :=
  let estimate := (digitCount n : Int) - digitCount d
  let (n', d') := scaleBy 10 n d (-estimate)
  if d' ≤ n' then estimate else estimate - 1

def bounds (x : Double) : Nat × Nat :=
  let low :=
    if x.significand = 2 ^ 52 ∧ lowestExponent < x.exponent then 4 * x.significand - 1
    else 4 * x.significand - 2
  (low, 4 * x.significand + 2)

def readsAs (x : Double) (c : Digits) : Bool :=
  let (low, high) := x.bounds
  let (n, d) := scaleBy 10 c.digits 1 c.exponent
  let (n, d) := scaleBy 2 n d (2 - x.exponent)
  if x.significand % 2 = 0 then decide (low * d ≤ n ∧ n ≤ high * d)
  else decide (low * d < n ∧ n < high * d)

-- The number's two neighbours among decimals with the last digit at `exponent`, the nearer first.
def candidates (n d : Nat) (exponent : Int) : List Digits :=
  let (n, d) := scaleBy 10 n d (-exponent)
  let below : Digits := { digits := n / d, exponent }
  let above : Digits := { digits := n / d + 1, exponent }
  if 2 * (n % d) ≤ d then [below, above] else [above, below]

def shortestFrom (x : Double) (n d : Nat) (leading : Int) : (tries length : Nat) → Digits
  | 0, length => { digits := n / d, exponent := leading - length }
  | tries + 1, length =>
    match (candidates n d (leading - length)).find? x.readsAs with
    -- The neighbour above may be the next power of ten.
    | some c => if c.digits % 10 = 0 then { digits := c.digits / 10, exponent := c.exponent + 1 } else c
    | none => shortestFrom x n d leading tries (length + 1)

def shortest (x : Double) : Digits :=
  if x.significand = 0 then { digits := 0, exponent := 0 }
  else
    let (n, d) := scaleBy 2 x.significand 1 x.exponent
    shortestFrom x n d (leadingPower n d) 17 0

def Digits.write (c : Digits) : List Char :=
  let digits := Nat.toDigits 10 c.digits
  if 0 ≤ c.exponent then digits ++ List.replicate c.exponent.toNat '0'
  else
    let places := c.exponent.natAbs
    let padded := padLeft (places + 1) digits
    padded.take (padded.length - places) ++ '.' :: padded.drop (padded.length - places)

def Digits.writeFloating (c : Digits) : List Char :=
  let digits := Nat.toDigits 10 c.digits
  let point := c.exponent + digits.length
  if -5 < point ∧ point ≤ 16 then c.write ++ (if 0 ≤ c.exponent then ['.', '0'] else [])
  else
    let fraction := digits.drop 1
    digits.take 1 ++ (if fraction.isEmpty then [] else '.' :: fraction) ++
      'e' :: (toString (point - 1)).toList

end Double

end MultiWallet.Decimal
