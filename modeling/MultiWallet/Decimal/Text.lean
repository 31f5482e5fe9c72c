import MultiWallet.Decimal.Basic

set_option autoImplicit false

namespace MultiWallet.Decimal

inductive ReadError where
  | empty
  | noDigits
  | unknownCharacter
  | secondPoint
  | leadingSeparator
  | tooManyDigits
  | roundedTooFar
  | badExponent
  | scaleTooLarge (scale : Nat)
  | tooLarge
deriving DecidableEq, Repr

def ReadError.message : ReadError → String
  | .empty => "Invalid decimal: empty"
  | .noDigits => "Invalid decimal: no digits found"
  | .unknownCharacter => "Invalid decimal: unknown character"
  | .secondPoint => "Invalid decimal: two decimal points"
  | .leadingSeparator => "Invalid decimal: must start lead with a number"
  | .tooManyDigits => "Invalid decimal: overflow from too many digits"
  | .roundedTooFar => "Invalid decimal: overflow from mantissa after rounding"
  | .badExponent => "Failed to parse"
  | .scaleTooLarge scale => s!"Scale exceeds the maximum precision allowed: {scale} > {maxScale}"
  | .tooLarge => "Number exceeds maximum value that can be represented."

def make (negative : Bool) (n : Nat) (h : n < 2 ^ 96) (scale : Nat) (hs : scale ≤ 28) : Decimal :=
  { negative := negative && n != 0
    coefficient := n
    scale := scale
    coefficient_lt := h
    scale_le := hs }

def digitOf? (c : Char) : Option Nat :=
  if '0' ≤ c ∧ c ≤ '9' then some (c.toNat - '0'.toNat) else none

structure Reading where
  negative : Bool
  point : Bool
  started : Bool
  digits : Nat
  places : Nat
  digits_lt : digits < 2 ^ 96 := by decide
  places_le : places ≤ 28 := by decide

namespace Reading

def finish (r : Reading) : Except ReadError Decimal :=
  if r.started then .ok (make r.negative r.digits r.digits_lt r.places r.places_le)
  else .error .noDigits

-- Adds one in the last place; a coefficient that overflows gives up that place.
def increment (r : Reading) : Except ReadError Decimal :=
  if h : r.digits + 1 < 2 ^ 96 then
    .ok (make r.negative (r.digits + 1) h r.places r.places_le)
  else if r.places = 0 then .error .roundedTooFar
  else
    .ok (make r.negative (2 ^ 96 / 10 + 1) (by decide) (r.places - 1)
      (Nat.le_trans (Nat.sub_le _ _) r.places_le))

def refuse (c : Char) : ReadError :=
  if c = '.' then .secondPoint
  else if c = '_' then .leadingSeparator
  else .unknownCharacter

-- A fraction may go on behind the places that are kept, with digits and separators only.
def checkTail : List Char → Except ReadError Unit
  | [] => .ok ()
  | c :: rest => if (digitOf? c).isSome || c == '_' then checkTail rest else .error (refuse c)

/-- Of the fraction behind the places that are kept, the first digit decides the rounding. -/
def roundBy (r : Reading) (tail : List Char) : Except ReadError Decimal := do
  checkTail tail
  match tail.findSome? digitOf? with
  | some digit => if digit < 5 then r.finish else r.increment
  | none => r.finish

def read (r : Reading) : List Char → Except ReadError Decimal
  | [] => r.finish
  | c :: rest =>
    if hp : r.point = true ∧ r.places = 28 then r.roundBy (c :: rest)
    else
      match digitOf? c with
      | some digit =>
        let places := if r.point then r.places + 1 else r.places
        if h : r.digits * 10 + digit < 2 ^ 96 then
          read
            { negative := r.negative
              point := r.point
              started := true
              digits := r.digits * 10 + digit
              places := places
              digits_lt := h
              places_le := by
                have := r.places_le
                simp only [places]
                split
                next hpoint =>
                  have : r.places ≠ 28 := fun h => hp ⟨hpoint, h⟩
                  omega
                next => exact this } rest
        else if r.point then r.roundBy (c :: rest)
        else .error .tooManyDigits
      | none =>
        if c = '.' ∧ r.point = false then read { r with point := true } rest
        else if c = '_' ∧ r.started = true then read r rest
        else .error (refuse c)

end Reading

def start (negative : Bool) : Reading :=
  { negative := negative, point := false, started := false, digits := 0, places := 0
    digits_lt := zero.coefficient_lt, places_le := zero.scale_le }

def readPlain : List Char → Except ReadError Decimal
  | [] => .error .empty
  | '-' :: rest => (start true).read rest
  | '+' :: rest => (start false).read rest
  | text => (start false).read text

def readExponent? (text : List Char) : Option Nat :=
  let digits := match text with
    | '+' :: rest => rest
    | _ => text
  if digits.isEmpty then none
  else
    match digits.mapM digitOf? with
    | some values =>
      let n := values.foldl (fun n d => n * 10 + d) 0
      if n < 2 ^ 32 then some n else none
    | none => none

-- What a coefficient becomes when its last `k` digits are dropped: the first of them rounds it.
def dropDigits (n k : Nat) : Nat :=
  if n / 10 ^ (k - 1) % 10 < 5 then n / 10 ^ k else n / 10 ^ k + 1

theorem dropDigits_lt {n k : Nat} (hn : n < 2 ^ 96) (hk : 0 < k) : dropDigits n k < 2 ^ 96 := by
  obtain ⟨j, rfl⟩ : ∃ j, k = j + 1 := ⟨k - 1, by omega⟩
  have : n / 10 ^ (j + 1) ≤ n / 10 := by
    rw [Nat.pow_succ, Nat.mul_comm, ← Nat.div_div_eq_div_mul]
    exact Nat.div_le_self _ _
  simp only [dropDigits]
  split <;> omega

def lower (d : Decimal) (k : Nat) : Decimal :=
  if h : d.scale + k ≤ 28 then { d with scale := d.scale + k, scale_le := h }
  else
    { negative := d.negative
      coefficient := dropDigits d.coefficient (d.scale + k - 28)
      scale := 28
      coefficient_lt := dropDigits_lt d.coefficient_lt (by omega)
      scale_le := Nat.le_refl maxScale }

def raise (d : Decimal) (k : Nat) : Except ReadError Decimal :=
  if k ≤ d.scale then
    .ok { d with scale := d.scale - k, scale_le := Nat.le_trans (Nat.sub_le _ _) d.scale_le }
  else if h : k < 29 then
    match d.mul? (powerOfTen ⟨k, h⟩) with
    | some product => .ok product.normalize
    | none => .error .tooLarge
  else .error (.scaleTooLarge k)

def isExponentMark (c : Char) : Bool := c == 'e' || c == 'E'

def scaleBy (base : Decimal) : List Char → Except ReadError Decimal
  | '-' :: digits =>
    match readExponent? digits with
    | some k => if k ≤ maxScale then .ok (base.lower k) else .error (.scaleTooLarge k)
    | none => .error .badExponent
  | digits =>
    match readExponent? digits with
    | some k => base.raise k
    | none => .error .badExponent

-- The number in front of the mark is judged before the exponent.
def read (text : List Char) : Except ReadError Decimal :=
  match text.dropWhile (!isExponentMark ·) with
  | [] => readPlain text
  | _ :: exponent => do
    let base ← readPlain (text.takeWhile (!isExponentMark ·))
    base.scaleBy exponent

def ofString (text : String) : Except ReadError Decimal := read text.toList

def digitsOf (n : Nat) : List Char := Nat.toDigits 10 n

def padLeft (width : Nat) (digits : List Char) : List Char :=
  List.replicate (width - digits.length) '0' ++ digits

def write (d : Decimal) : List Char :=
  let whole := digitsOf (d.coefficient / 10 ^ d.scale)
  let fraction := padLeft d.scale (digitsOf (d.coefficient % 10 ^ d.scale))
  let unsigned := if d.scale = 0 then whole else whole ++ '.' :: fraction
  if d.negative then '-' :: unsigned else unsigned

def toText (d : Decimal) : String := String.ofList d.write

end MultiWallet.Decimal
