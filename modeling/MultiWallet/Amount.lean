import MultiWallet.Decimal.Text
import MultiWallet.Failure
import MultiWallet.Text.Blank

set_option autoImplicit false

namespace MultiWallet

structure Amount where
  currency : Currency
  value : Decimal
deriving DecidableEq, Repr

namespace Amount

def zero (currency : Currency) : Amount := { currency, value := .zero }

def isZero (a : Amount) : Bool := a.value.isZero

def isPositive (a : Amount) : Bool := a.value.isPositive

def same (a b : Amount) : Bool := decide (a.currency = b.currency) && a.value.same b.value

def toText (a : Amount) : String := a.value.normalize.toText ++ " " ++ a.currency.ticker

def unit (currency : Currency) : Decimal := .powerOfTen ⟨currency.places, currency.places_lt⟩

def ofMinor (currency : Currency) (minor : UInt64) : Amount :=
  { currency, value := ((Decimal.ofUInt64 minor).shiftRight currency.places).normalize }

def ofMinorText (currency : Currency) (text : String) : Checked Amount :=
  match Decimal.read (Text.trim text.toList) with
  | .ok d => .ok { currency, value := (d.shiftRight currency.places).normalize }
  | .error e =>
    fail (.invalidAmount (currency.ticker ++ " minor amount '" ++ text ++ "': " ++ e.message))

def minor (a : Amount) : Checked Nat :=
  match (a.value.mul? (unit a.currency)).bind Decimal.toNat? with
  | some n => .ok n
  | none => fail (.invalidAmount (a.toText ++ " out of range"))

def requireCurrency (a b : Amount) : Checked Unit :=
  if a.currency = b.currency then .ok ()
  else fail (.currencyMismatch a.currency.ticker b.currency.ticker)

def add (a b : Amount) : Checked Amount := do
  a.requireCurrency b
  match a.value.add? b.value with
  | some value => .ok { currency := a.currency, value }
  | none => fail (.invalidAmount (a.toText ++ " + " ++ b.toText ++ " out of range"))

def sub (a b : Amount) : Checked Amount := do
  a.requireCurrency b
  match a.value.sub? b.value with
  | some value => .ok { currency := a.currency, value }
  | none => fail (.invalidAmount (a.toText ++ " - " ++ b.toText ++ " out of range"))

def remainder (a b : Amount) : Checked Amount := do
  let rest ← a.sub b
  return if rest.value.negative then zero a.currency else rest

end Amount

structure FiatAmount where
  currency : String
  value : Decimal
deriving DecidableEq, Repr

end MultiWallet
