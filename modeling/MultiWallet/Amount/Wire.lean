import MultiWallet.Amount
import MultiWallet.Fee
import MultiWallet.Json.Decimal

set_option autoImplicit false

namespace MultiWallet

def Decimal.toJson (d : Decimal) : Json := .string d.toText

def Currency.toJson (c : Currency) : Json := .string c.ticker

def Currency.ofJson? (j : Json) : Option Currency := do ofExactTicker? (← j.asText)

def Amount.toJson (a : Amount) : Json :=
  .object [("currency", a.currency.toJson), ("amount", a.value.toJson)]

def Amount.ofJson? (j : Json) : Option Amount := do
  let r ← Json.Record.ofJson? ["currency", "amount"] j
  return {
    currency := ← r.required "currency" Currency.ofJson?
    value := ← r.required "amount" Json.asDecimal }

def FiatAmount.toJson (a : FiatAmount) : Json :=
  .object [("currency", .string a.currency), ("amount", a.value.toJson)]

def FiatAmount.ofJson? (j : Json) : Option FiatAmount := do
  let r ← Json.Record.ofJson? ["currency", "amount"] j
  return {
    currency := ← r.required "currency" Json.asText
    value := ← r.required "amount" Json.asDecimal }

def FeeLevel.ofJson? (j : Json) : Option FeeLevel := do ofName? (← j.asText)

def FeeType.ofJson? (j : Json) : Option FeeType := do ofName? (← j.asText)

def FeeLimits.toJson (l : FeeLimits) : Json :=
  .object [("min", l.lowest.toJson), ("max", l.highest.toJson)]

def FeeLimits.ofJson? (j : Json) : Option FeeLimits := do
  let r ← Json.Record.ofJson? ["min", "max"] j
  return {
    lowest := ← r.required "min" Json.asDecimal
    highest := ← r.required "max" Json.asDecimal }

def FeeSchedule.toJson (s : FeeSchedule) : Json :=
  .object
    [("currency", s.currency.toJson),
     ("regular", s.regular.toJson),
     ("priority", s.priority.toJson),
     ("limits", .ofOption FeeLimits.toJson s.limits),
     ("gas_limit", .ofOption .ofUInt64 s.gasLimit)]

def FeeSchedule.ofJson? (j : Json) : Option FeeSchedule := do
  let r ← Json.Record.ofJson? ["currency", "regular", "priority", "limits", "gas_limit"] j
  return {
    currency := ← r.required "currency" Currency.ofJson?
    regular := ← r.required "regular" Json.asDecimal
    priority := ← r.required "priority" Json.asDecimal
    limits := ← r.defaulted "limits" (Json.asOption FeeLimits.ofJson?) none
    gasLimit := ← r.defaulted "gas_limit" (Json.asOption Json.asUInt64) none }

end MultiWallet
