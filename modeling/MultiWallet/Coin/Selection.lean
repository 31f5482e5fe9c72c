import MultiWallet.Transaction.Wire

set_option autoImplicit false

namespace MultiWallet.Coin

abbrev wordLimit : Nat := 2 ^ 64

abbrev largestWord : Nat := wordLimit - 1

-- The smallest change that gets an output of its own.
def dustThreshold : Nat := 546

def virtualSize (inputs outputs : Nat) : Nat :=
  min (10 + 148 * inputs + 34 * outputs) largestWord

structure Requirement where
  fee : Nat
  total : Nat
deriving DecidableEq, Repr

def requirement? (target inputs outputs rate : Nat) : Option Requirement :=
  let fee := virtualSize inputs outputs * rate
  if fee < wordLimit ∧ target + fee < wordLimit then some { fee, total := target + fee } else none

structure Selection where
  inputs : List Coin
  change : Option UInt64
  fee : UInt64
deriving DecidableEq, Repr

def Selection.toJson (s : Selection) : Json :=
  .object
    [("inputs", .array (s.inputs.map Coin.toJson)), ("change", .ofOption .ofUInt64 s.change),
     ("fee", .ofUInt64 s.fee)]

def withChange? (inputs : List Coin) (total target rate : Nat) : Option Selection := do
  let required ← requirement? target inputs.length 2 rate
  if required.total + dustThreshold ≤ total then
    some
      { inputs
        change := some (.ofNat (total - required.total))
        fee := .ofNat required.fee }
  else none

def withoutChange? (inputs : List Coin) (total target rate : Nat) : Option Selection := do
  let required ← requirement? target inputs.length 1 rate
  if required.total ≤ total then
    some { inputs, change := none, fee := .ofNat (total - target) }
  else none

def settle? (inputs : List Coin) (total target rate : Nat) : Option Selection :=
  withChange? inputs total target rate <|> withoutChange? inputs total target rate

def shortfall (currency : Currency) (inputs total target rate : Nat) : Failure :=
  let needed := (requirement? target (max inputs 1) 1 rate).elim largestWord (·.total)
  .insufficientFunds currency (Amount.ofMinor currency (.ofNat total)).toText
    (Amount.ofMinor currency (.ofNat needed)).toText

def chooseFrom (currency : Currency) (target rate : Nat) :
    (chosen : List Coin) → (total : Nat) → List Coin → Checked Selection
  | chosen, total, [] => fail (shortfall currency chosen.length total target rate)
  | chosen, total, coin :: rest =>
    let total := total + coin.value.toNat
    let chosen := chosen ++ [coin]
    if total < wordLimit then
      match settle? chosen total target rate with
      | some selection => .ok selection
      | none => chooseFrom currency target rate chosen total rest
    else fail (.invalidAmount (currency.ticker ++ " input total out of range"))

-- Coins of one value keep the order in which they were listed.
def largestFirst (coins : List Coin) : List Coin :=
  coins.mergeSort fun a b => decide (b.value ≤ a.value)

def select (coins : List Coin) (target rate : UInt64) (currency : Currency) :
    Checked Selection :=
  chooseFrom currency target.toNat rate.toNat [] 0 (largestFirst coins)

def totalValue : List Coin → Nat
  | [] => 0
  | coin :: rest => coin.value.toNat + totalValue rest

def sweep (coins : List Coin) (rate : UInt64) : Nat :=
  if coins.isEmpty then 0
  else
    min (totalValue coins) largestWord -
      min (virtualSize coins.length 1 * rate.toNat) largestWord

def wholeRate (rate : Decimal) : UInt64 :=
  match rate.ceil.toNat? with
  | some n => if n < wordLimit then .ofNat (max n 1) else 1
  | none => 1

end MultiWallet.Coin
