/-!
Decimals with a 96-bit coefficient and up to 28 fraction digits. Sums and products are exact where
the format holds them; otherwise fraction digits are dropped, as few as possible, and the rest is
rounded half to even. An operation whose result has too many integer digits has no value.
-/

set_option autoImplicit false

namespace MultiWallet

-- Powers are the core library's, also beside others.
attribute [instance (high)] instPowNat
attribute [default_instance 20000] instPowNat

structure Decimal where
  negative : Bool
  coefficient : Nat
  scale : Nat
  coefficient_lt : coefficient < 2 ^ 96 := by decide
  scale_le : scale ≤ 28 := by decide
deriving DecidableEq, Repr

namespace Decimal

abbrev maxScale : Nat := 28

def zero : Decimal := { negative := false, coefficient := 0, scale := 0 }

instance : Inhabited Decimal := ⟨zero⟩

def isZero (d : Decimal) : Bool := d.coefficient == 0

def isPositive (d : Decimal) : Bool := !d.negative && d.coefficient != 0

def neg (d : Decimal) : Decimal := { d with negative := !d.negative }

def signed (d : Decimal) : Int := if d.negative then -(d.coefficient : Int) else d.coefficient

def signedAt (d : Decimal) (scale : Nat) : Int := d.signed * 10 ^ (scale - d.scale)

def same (a b : Decimal) : Bool :=
  let scale := max a.scale b.scale
  a.signedAt scale == b.signedAt scale

def ofNat (n : Nat) (h : n < 2 ^ 96) : Decimal :=
  { negative := false, coefficient := n, scale := 0, coefficient_lt := h }

def ofNat? (n : Nat) : Option Decimal :=
  if h : n < 2 ^ 96 then some (ofNat n h) else none

def ofUInt64 (n : UInt64) : Decimal :=
  ofNat n.toNat (Nat.lt_trans n.toNat_lt (by decide))

def powerOfTen (k : Fin 29) : Decimal :=
  ofNat (10 ^ k.val)
    (Nat.lt_of_le_of_lt (Nat.pow_le_pow_right (by decide) (Nat.le_of_lt_succ k.isLt)) (by decide))

def divideHalfEven (n d : Nat) : Nat :=
  let q := n / d
  let r := n % d
  if d < 2 * r ∨ (2 * r = d ∧ q % 2 = 1) then q + 1 else q

theorem divideHalfEven_one (n : Nat) : divideHalfEven n 1 = n := by
  simp [divideHalfEven, Nat.mod_one]

theorem divideHalfEven_le (n d : Nat) (hd : 0 < d) : divideHalfEven n d ≤ n := by
  rcases Nat.lt_or_ge 1 d with h | h
  · rcases Nat.eq_zero_or_pos n with hn | hn
    · subst hn
      simp [divideHalfEven, Nat.zero_mod]
    · have := Nat.div_lt_self hn h
      simp only [divideHalfEven]
      split <;> omega
  · have : d = 1 := by omega
    subst this
    exact Nat.le_of_eq (divideHalfEven_one n)

-- Keeps `kept` fraction digits of `n`, which has `dropped` more, and gives up further digits
-- until the coefficient fits.
def fitFrom (negative : Bool) (n : Nat) : (kept dropped : Nat) → kept ≤ 28 → Option Decimal
  | kept, dropped, hk =>
    let coefficient := divideHalfEven n (10 ^ dropped)
    if h : coefficient < 2 ^ 96 then
      some
        { negative := negative && coefficient != 0
          coefficient := coefficient
          scale := kept
          coefficient_lt := h
          scale_le := hk }
    else
      match kept, hk with
      | 0, _ => none
      | kept + 1, hk => fitFrom negative n kept (dropped + 1) (by omega)

/-- The decimal nearest to `n / 10 ^ scale` at the largest scale that the format can hold. -/
def fit (negative : Bool) (n scale : Nat) : Option Decimal :=
  if h : scale ≤ 28 then fitFrom negative n scale 0 h
  else fitFrom negative n 28 (scale - 28) (Nat.le_refl 28)

def ofSigned (n : Int) (scale : Nat) : Option Decimal :=
  fit (decide (n < 0)) n.natAbs scale

def add? (a b : Decimal) : Option Decimal :=
  if a.isZero then some b
  else if b.isZero then some a
  else
    let scale := max a.scale b.scale
    ofSigned (a.signedAt scale + b.signedAt scale) scale

def sub? (a b : Decimal) : Option Decimal :=
  if a.isZero then some (if b.isZero then b else b.neg)
  else if b.isZero then some a
  else
    let scale := max a.scale b.scale
    ofSigned (a.signedAt scale - b.signedAt scale) scale

def mul? (a b : Decimal) : Option Decimal :=
  if a.isZero || b.isZero then some zero
  else fit (a.negative != b.negative) (a.coefficient * b.coefficient) (a.scale + b.scale)

def shiftRight (d : Decimal) (k : Nat) : Decimal :=
  if h : d.scale + k ≤ 28 then
    { d with scale := d.scale + k, scale_le := h }
  else
    let coefficient := divideHalfEven d.coefficient (10 ^ (d.scale + k - 28))
    { negative := d.negative && coefficient != 0
      coefficient := coefficient
      scale := 28
      coefficient_lt :=
        Nat.lt_of_le_of_lt (divideHalfEven_le _ _ (Nat.pow_pos (by decide))) d.coefficient_lt }

-- The integer part keeps the sign of the whole, also when it is zero.
def trunc (d : Decimal) : Decimal :=
  { negative := d.negative
    coefficient := d.coefficient / 10 ^ d.scale
    scale := 0
    coefficient_lt := Nat.lt_of_le_of_lt (Nat.div_le_self _ _) d.coefficient_lt }

theorem ceil_lt {n scale : Nat} (hn : n < 2 ^ 96) (h : n % 10 ^ scale ≠ 0) :
    n / 10 ^ scale + 1 < 2 ^ 96 := by
  cases scale with
  | zero => simp [Nat.mod_one] at h
  | succ s =>
    have : n / 10 ^ (s + 1) ≤ n / 10 := by
      rw [Nat.pow_succ, Nat.mul_comm, ← Nat.div_div_eq_div_mul]
      exact Nat.div_le_self _ _
    omega

def ceil (d : Decimal) : Decimal :=
  if h : d.negative = false ∧ d.coefficient % 10 ^ d.scale ≠ 0 then
    ofNat (d.coefficient / 10 ^ d.scale + 1) (ceil_lt d.coefficient_lt h.2)
  else d.trunc

def toNat? (d : Decimal) : Option Nat :=
  if d.negative then none else some (d.coefficient / 10 ^ d.scale)

def stripZeros : (scale coefficient : Nat) → Nat × Nat
  | 0, n => (0, n)
  | scale + 1, n => if n % 10 = 0 then stripZeros scale (n / 10) else (scale + 1, n)

theorem stripZeros_scale_le (scale n : Nat) : (stripZeros scale n).1 ≤ scale := by
  induction scale generalizing n with
  | zero => simp [stripZeros]
  | succ s ih =>
    simp only [stripZeros]
    split
    · exact Nat.le_succ_of_le (ih _)
    · exact Nat.le_refl _

theorem stripZeros_coefficient_le (scale n : Nat) : (stripZeros scale n).2 ≤ n := by
  induction scale generalizing n with
  | zero => simp [stripZeros]
  | succ s ih =>
    simp only [stripZeros]
    split
    · exact Nat.le_trans (ih _) (Nat.div_le_self _ _)
    · exact Nat.le_refl _

theorem stripZeros_value (scale n : Nat) :
    (stripZeros scale n).2 * 10 ^ (scale - (stripZeros scale n).1) = n := by
  induction scale generalizing n with
  | zero => simp [stripZeros]
  | succ s ih =>
    simp only [stripZeros]
    split
    next h =>
      have hs := stripZeros_scale_le s (n / 10)
      rw [Nat.succ_sub hs, Nat.pow_succ, ← Nat.mul_assoc, ih]
      omega
    next => simp

def normalize (d : Decimal) : Decimal :=
  if d.isZero then zero
  else
    { negative := d.negative
      coefficient := (stripZeros d.scale d.coefficient).2
      scale := (stripZeros d.scale d.coefficient).1
      coefficient_lt :=
        Nat.lt_of_le_of_lt (stripZeros_coefficient_le _ _) d.coefficient_lt
      scale_le := Nat.le_trans (stripZeros_scale_le _ _) d.scale_le }

end Decimal

end MultiWallet
