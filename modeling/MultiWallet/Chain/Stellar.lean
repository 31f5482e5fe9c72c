import MultiWallet.Dialogue.Basic
import MultiWallet.Text.Integer
import MultiWallet.Transaction.Wire

set_option autoImplicit false

namespace MultiWallet

def StellarOperation.ofJson? (j : Json) : Option StellarOperation := do
  let r ← Json.Record.ofJson?
    ["id", "type", "transaction_hash", "created_at", "from", "to", "amount", "funder", "account",
     "starting_balance"] j
  let text? (name : String) : Option (Option String) :=
    r.defaulted name (Json.asOption Json.asText) none
  return {
    id := ← r.required "id" Json.asText
    kind := ← r.required "type" Json.asText
    transactionHash := ← r.required "transaction_hash" Json.asText
    createdAt := ← r.defaulted "created_at" (Json.asOption Timestamp.ofJson?) none
    sender := ← text? "from"
    recipient := ← text? "to"
    amount := ← text? "amount"
    funder := ← text? "funder"
    account := ← text? "account"
    startingBalance := ← text? "starting_balance" }

def StellarBalance.ofJson? (j : Json) : Option StellarBalance := do
  let r ← Json.Record.ofJson? ["balance", "asset_type", "asset_code"] j
  return {
    balance := ← r.required "balance" Json.asText
    assetType := ← r.required "asset_type" Json.asText
    assetCode := ← r.defaulted "asset_code" (Json.asOption Json.asText) none }

def StellarAccount.ofJson? (j : Json) : Option StellarAccount := do
  let r ← Json.Record.ofJson? ["account_id", "sequence", "subentry_count", "balances"] j
  return {
    id := ← r.required "account_id" Json.asText
    sequence := ← r.required "sequence" Json.asText
    subentries := ← r.defaulted "subentry_count" Json.asUInt32 0
    balances := ← r.defaulted "balances" (Json.asArray StellarBalance.ofJson?) [] }

def StellarSubmission.ofJson? (j : Json) : Option StellarSubmission := do
  let r ← Json.Record.ofJson? ["successful", "hash", "result_code"] j
  return {
    successful := ← r.required "successful" Json.asBool
    hash := ← r.defaulted "hash" (Json.asOption Json.asText) none
    resultCode := ← r.defaulted "result_code" (Json.asOption Json.asText) none }

namespace StellarServer

def readPage (j : Json) : Option (List StellarOperation) := do
  let page ← Json.Record.ofJson? ["_embedded"] j
  page.required "_embedded" fun embedded => do
    let r ← Json.Record.ofJson? ["records"] embedded
    r.required "records" (Json.asArray StellarOperation.ofJson?)

def readSuccess (j : Json) : Option StellarSubmission := do
  let r ← Json.Record.ofJson? ["hash", "successful"] j
  return {
    successful := ← r.defaulted "successful" Json.asBool true
    hash := some (← r.required "hash" Json.asText)
    resultCode := none }

def readRefusal (j : Json) : Option StellarSubmission := do
  let r ← Json.Record.ofJson? ["extras"] j
  let code ← r.defaulted "extras" (fun extras => do
    let r ← Json.Record.ofJson? ["result_codes"] extras
    r.defaulted "result_codes" (fun codes => do
      let r ← Json.Record.ofJson? ["transaction"] codes
      r.defaulted "transaction" (Json.asOption Json.asText) none) none) none
  return { successful := false, hash := none, resultCode := code }

def refused {α : Type} (r : Http.Reply) : Dialogue α := Dialogue.fail (.ledger r.status r.body)

def root : StellarServer → Dialogue Unit
  | external name => do
    let answer : Answer Unit ← Dialogue.ask (.stellarRoot name)
    Dialogue.ofAnswer answer
  | http base => do
    let r ← Dialogue.exchange (Http.get base none)
    if r.isSuccess then return () else refused r

def account (server : StellarServer) (id : String) : Dialogue StellarAccount :=
  match server with
  | external name => do
    let answer : Answer StellarAccount ← Dialogue.ask (.stellarAccount name id)
    Dialogue.ofAnswer answer
  | http base => do
    let r ← Dialogue.exchange (Http.get (base ++ "/accounts/" ++ id) none)
    if r.isSuccess then Dialogue.decodeBody StellarAccount.ofJson? r else refused r

def operations (server : StellarServer) (id : String) : Dialogue (List StellarOperation) :=
  match server with
  | external name => do
    let answer : Answer (List StellarOperation) ← Dialogue.ask (.stellarOperations name id)
    Dialogue.ofAnswer answer
  | http base => do
    let url := base ++ "/accounts/" ++ id ++ "/operations?" ++
      Http.query [("order", "desc"), ("limit", "50")]
    let r ← Dialogue.exchange (Http.get url none)
    if r.isSuccess then Dialogue.decodeBody readPage r else refused r

-- A refusal by the ledger itself comes as a bad request with a result code.
def submit (server : StellarServer) (envelope : String) : Dialogue StellarSubmission :=
  match server with
  | external name => do
    let answer : Answer StellarSubmission ← Dialogue.ask (.stellarSubmit name envelope)
    Dialogue.ofAnswer answer
  | http base => do
    let r ← Dialogue.exchange (Http.postForm (base ++ "/transactions") [("tx", envelope)])
    if r.isSuccess then Dialogue.decodeBody readSuccess r
    else if r.status = 400 then Dialogue.decodeBody readRefusal r
    else refused r

def account? (server : StellarServer) (id : String) : Dialogue (Option StellarAccount) := do
  match ← (server.account id).attempt with
  | .ok account => return some account
  | .error cause => if cause.isNotFound then return none else Dialogue.fail cause

end StellarServer

def StellarOperation.toEntry (op : StellarOperation) : HistoryEntry :=
  let creates := op.kind == "create_account"
  { id := op.id
    kind := op.kind
    hash := op.transactionHash
    sender := if creates then op.funder else op.sender
    recipient := if creates then op.account else op.recipient
    amount :=
      (if creates then op.startingBalance else op.amount).bind fun text =>
        (Decimal.ofString text).toOption
    time := op.createdAt }

namespace StellarAccount

def nativeBalance (a : StellarAccount) : Checked Decimal :=
  match a.balances.find? (fun b => b.assetType == "native" && b.assetCode.isNone) with
  | none => .ok .zero
  | some b =>
    match Decimal.ofString b.balance with
    | .ok d => .ok d
    | .error e => fail (.invalidAmount ("balance '" ++ b.balance ++ "': " ++ e.message))

def reserve : Decimal := { negative := false, coefficient := 5, scale := 1 }

def minimumBalance (a : StellarAccount) : Checked Decimal :=
  let entries := 2 + a.subentries.toNat
  if entries < 2 ^ 32 then orOverflow ((Decimal.ofNat? entries).bind (·.mul? reserve))
  else .error .overflow

def nextSequence (a : StellarAccount) : Checked Int :=
  match Text.readSigned (2 ^ 63 - 1) a.sequence.toList with
  | .ok n => if n + 1 < 2 ^ 63 then .ok (n + 1) else .error .overflow
  | .error e => fail (.internal ("sequence '" ++ a.sequence ++ "': " ++ e.message))

end StellarAccount

structure Stellar where
  server : StellarServer
  network : Network
deriving DecidableEq, Repr

namespace Stellar

def lowestFee : Nat := 100

def baseFee (rate : Decimal) : UInt32 :=
  match rate.toNat? with
  | some n => if lowestFee ≤ n ∧ n < 2 ^ 32 then .ofNat n else .ofNat lowestFee
  | none => .ofNat lowestFee

def health (x : Stellar) : Dialogue Unit := x.server.root

def exists? (x : Stellar) (id : String) : Dialogue Bool := do
  return (← x.server.account? id).isSome

def balance (x : Stellar) (id : String) : Dialogue Amount := do
  match ← x.server.account? id with
  | some account => do
    let value ← account.nativeBalance
    return { currency := .xlm, value }
  | none => return .zero .xlm

def history (x : Stellar) (id : String) : Dialogue (List HistoryEntry) := do
  match ← (x.server.operations id).attempt with
  | .ok operations => return operations.map StellarOperation.toEntry
  | .error cause => if cause.isNotFound then return [] else Dialogue.fail cause

def operationFor (x : Stellar) (destination : String) (amount : Decimal) :
    Dialogue LedgerOperation := do
  if ← x.exists? destination then return .payment destination amount
  else return .createAccount destination amount

def build (x : Stellar) (transfer : Transfer) : Dialogue LedgerTransaction := do
  if transfer.amount.currency ≠ .xlm then
    Dialogue.fail (.currencyMismatch Currency.xlm.ticker transfer.amount.currency.ticker)
  else
    let source ← x.server.account transfer.source
    let sequence ← source.nextSequence
    let operation ← x.operationFor transfer.destination transfer.amount.value
    return {
      network := x.network
      passphrase := x.network.passphrase
      source := source.id
      sequence
      feeStroops := baseFee transfer.rate
      memo := transfer.memo
      operations := [operation] }

def submit (x : Stellar) (signed : SignedTransaction) : Dialogue Receipt := do
  let submission ← x.server.submit signed.encoded
  return {
    accepted := submission.successful
    transaction := { signed with hash := submission.hash.getD signed.hash }
    resultCode := submission.resultCode }

def spendable (account : StellarAccount) (rate : Decimal) : Checked Amount := do
  let native ← account.nativeBalance
  let minimum ← account.minimumBalance
  let value ← orOverflow (native.sub? minimum)
  Amount.remainder { currency := .xlm, value } (.ofMinor .xlm (baseFee rate).toUInt64)

def maximum (x : Stellar) (id : String) (rate : Decimal) : Dialogue Amount := do
  match ← x.server.account? id with
  | some account => Dialogue.ofChecked (spendable account rate)
  | none => return .zero .xlm

end Stellar

end MultiWallet
