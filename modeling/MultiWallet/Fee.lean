import MultiWallet.Currency
import MultiWallet.Decimal.Basic

set_option autoImplicit false

namespace MultiWallet

inductive FeeLevel where
  | none
  | regular
  | priority
deriving DecidableEq, Repr

inductive FeeType where
  | regular
  | priority
deriving DecidableEq, Repr

namespace FeeLevel

def name : FeeLevel → String
  | none => "None"
  | regular => "Regular"
  | priority => "Priority"

def ofName? (text : String) : Option FeeLevel :=
  [none, regular, priority].find? (·.name == text)

def code : FeeLevel → Int
  | none => 0
  | regular => 1
  | priority => 2

def type : FeeLevel → FeeType
  | priority => .priority
  | none | regular => .regular

def ofPreference (saved : Option Int) : FeeLevel :=
  if saved = some priority.code then priority else regular

end FeeLevel

def FeeType.name : FeeType → String
  | .regular => "Regular"
  | .priority => "Priority"

def FeeType.ofName? (text : String) : Option FeeType :=
  [.regular, .priority].find? (·.name == text)

structure FeeLimits where
  lowest : Decimal
  highest : Decimal
deriving DecidableEq, Repr

/-- Rates per unit of the chain: a virtual byte, a billionth of gas, or an operation. -/
structure FeeSchedule where
  currency : Currency
  regular : Decimal
  priority : Decimal
  limits : Option FeeLimits
  gasLimit : Option UInt64
deriving DecidableEq, Repr

def FeeSchedule.rate (s : FeeSchedule) : FeeType → Decimal
  | .regular => s.regular
  | .priority => s.priority

end MultiWallet
