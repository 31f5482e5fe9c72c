import MultiWallet.Dialogue.Basic
import MultiWallet.Json.Decimal

set_option autoImplicit false

namespace MultiWallet.Custodian

def ofUrl (url token : String) : Custodian := http (Http.trimSlashes url) token

structure Endpoint where
  base : String
  token : String

namespace Endpoint

def url (e : Endpoint) (path : String) (fields : List (String × String)) : String :=
  e.base ++ path ++ (if fields.isEmpty then "" else "?" ++ Http.query fields)

def find {α : Type} (e : Endpoint) (path : String) (fields : List (String × String))
    (decode : Json → Option α) : Dialogue (Option α) := do
  let r ← Dialogue.exchange (Http.get (e.url path fields) (Http.bearer e.token))
  if r.status = 404 then return none
  else if r.isError then Dialogue.fail (.http (some r.status))
  else some <$> Dialogue.decodeBody decode r

def post {α : Type} (e : Endpoint) (path : String) (body : Json) (decode : Json → Option α) :
    Dialogue α := do
  let r ← Dialogue.exchange (Http.postJson (e.url path []) (Http.bearer e.token) body)
  if r.isSuccess then Dialogue.decodeBody decode r
  else
    Dialogue.fail
      (.custodial (path ++ " returned " ++ Http.statusText r.status ++ ": " ++ r.body))

def field {α : Type} (name : String) (decode : Json → Option α) (j : Json) : Option α := do
  (← Json.Record.ofJson? [name] j).required name decode

def reachable (e : Endpoint) : Dialogue Unit := do
  let r ← Dialogue.exchange (Http.get (e.url "/status" []) none)
  if r.isError then Dialogue.fail (.http (some r.status)) else return ()

end Endpoint

def checkReachable : Custodian → Dialogue Unit
  | .external => do
    let answer : Answer Unit ← Dialogue.ask .custodianReachable
    Dialogue.ofAnswer answer
  | .http base token => ({ base, token : Endpoint }).reachable

def fiatCurrencies : Custodian → Dialogue (List String)
  | .external => do
    let answer : Answer (List String) ← Dialogue.ask .fiatCurrencies
    Dialogue.ofAnswer answer
  | .http base token => do
    let found ← ({ base, token : Endpoint }).find "/trades/fiat-currencies" []
      (Json.asArray Json.asText)
    return found.getD []

def tradingBalance (custodian : Custodian) (currency : Currency) : Dialogue Decimal :=
  match custodian with
  | .external => do
    let answer : Answer Decimal ← Dialogue.ask (.tradingBalance currency)
    Dialogue.ofAnswer answer
  | .http base token => do
    let found ← ({ base, token : Endpoint }).find "/accounts/simplebuy"
      [("ccy", currency.ticker)] (Endpoint.field "available" Json.asDecimal)
    return found.getD .zero

def interestBalance (custodian : Custodian) (currency : Currency) : Dialogue (Option Decimal) :=
  match custodian with
  | .external => do
    let answer : Answer (Option Decimal) ← Dialogue.ask (.interestBalance currency)
    Dialogue.ofAnswer answer
  | .http base token =>
    ({ base, token : Endpoint }).find "/accounts/savings" [("ccy", currency.ticker)]
      (Endpoint.field "balance" Json.asDecimal)

def fiatBalance (custodian : Custodian) (code : String) : Dialogue Decimal :=
  match custodian with
  | .external => do
    let answer : Answer Decimal ← Dialogue.ask (.fiatBalance code)
    Dialogue.ofAnswer answer
  | .http base token => do
    let found ← ({ base, token : Endpoint }).find "/accounts/simplebuy" [("ccy", code)]
      (Endpoint.field "available" Json.asDecimal)
    return found.getD .zero

def depositAddress (custodian : Custodian) (currency : Currency) : Dialogue String :=
  match custodian with
  | .external => do
    let answer : Answer String ← Dialogue.ask (.depositAddress currency)
    Dialogue.ofAnswer answer
  | .http base token => do
    match ← ({ base, token : Endpoint }).find "/payments/accounts/simplebuy"
      [("currency", currency.ticker)] (Endpoint.field "address" Json.asText) with
    | some address => return address
    | none => Dialogue.fail (.custodial ("No deposit address for " ++ currency.ticker))

def withdrawalFee (custodian : Custodian) (currency : Currency) : Dialogue Decimal :=
  match custodian with
  | .external => do
    let answer : Answer Decimal ← Dialogue.ask (.withdrawalFee currency)
    Dialogue.ofAnswer answer
  | .http base token => do
    let found ← ({ base, token : Endpoint }).find "/payments/withdrawals/fees"
      [("product", "SIMPLEBUY")] (Endpoint.field "fees" (Json.asMap Json.asDecimal))
    return ((found.getD []).lookup currency.ticker).getD .zero

def withdraw (custodian : Custodian) (currency : Currency) (address : String)
    (amount : Decimal) : Dialogue String :=
  match custodian with
  | .external => do
    let answer : Answer String ← Dialogue.ask (.withdraw currency address amount)
    Dialogue.ofAnswer answer
  | .http base token =>
    ({ base, token : Endpoint }).post "/payments/withdrawals"
      (.object
        [("currency", .string currency.ticker), ("address", .string address),
         ("amount", .string amount.toText)])
      (Endpoint.field "id" Json.asText)

def placeOrder (custodian : Custodian) (order : Order) : Dialogue String :=
  match custodian with
  | .external => do
    let answer : Answer String ← Dialogue.ask (.placeOrder order)
    Dialogue.ofAnswer answer
  | .http base token =>
    ({ base, token : Endpoint }).post "/custodial/trades" order.toJson
      (Endpoint.field "id" Json.asText)

end MultiWallet.Custodian
