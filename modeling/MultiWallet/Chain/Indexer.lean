import MultiWallet.Coin.Selection
import MultiWallet.Dialogue.Basic
import MultiWallet.Text.Integer

set_option autoImplicit false

namespace MultiWallet

structure Indexer where
  currency : Currency
  base : String
deriving DecidableEq, Repr

namespace Indexer

def find {α : Type} (x : Indexer) (path : String) (decode : Json → Option α) :
    Dialogue (Option α) := do
  let r ← Dialogue.exchange (Http.get (x.base ++ path) none)
  if r.status = 404 then return none
  else if r.isSuccess then some <$> Dialogue.decodeBody decode r
  else Dialogue.fail (.ledger r.status r.body)

structure ListedTransaction where
  txid : String
  blockTime : Option Int
  value : Option String

structure ListedAddress where
  balance : String
  transactions : List ListedTransaction

structure ListedCoin where
  txid : String
  index : UInt32
  value : String

def readTransaction (j : Json) : Option ListedTransaction := do
  let r ← Json.Record.ofJson? ["txid", "blockTime", "value"] j
  return {
    txid := ← r.required "txid" Json.asText
    blockTime := ← r.defaulted "blockTime"
      (Json.asOption (Json.intBetween (-2 ^ 63) (2 ^ 63 - 1))) none
    value := ← r.defaulted "value" (Json.asOption Json.asText) none }

def readAddress (j : Json) : Option ListedAddress := do
  let r ← Json.Record.ofJson? ["balance", "transactions"] j
  return {
    balance := ← r.required "balance" Json.asText
    transactions := ← r.defaulted "transactions" (Json.asArray readTransaction) [] }

def readCoin (j : Json) : Option ListedCoin := do
  let r ← Json.Record.ofJson? ["txid", "vout", "value"] j
  return {
    txid := ← r.required "txid" Json.asText
    index := ← r.required "vout" Json.asUInt32
    value := ← r.required "value" Json.asText }

def ListedCoin.toCoin (c : ListedCoin) : Checked Coin :=
  match Text.readUnsigned Coin.largestWord c.value.toList with
  | .ok n => .ok { txid := c.txid, index := c.index, value := .ofNat n }
  | .error e => MultiWallet.fail (.invalidAmount ("utxo value '" ++ c.value ++ "': " ++ e.message))

def coins (x : Indexer) (address : String) : Dialogue (List Coin) := do
  let listed ← x.find ("/api/v2/utxo/" ++ address) (Json.asArray readCoin)
  Dialogue.ofChecked ((listed.getD []).mapM ListedCoin.toCoin)

def health (x : Indexer) : Dialogue Unit := do
  match ← x.find "/api/v2" (Json.asReadable Json.openLimit) with
  | some _ => return ()
  | none => Dialogue.fail (.network x.currency "indexer status endpoint missing")

def balance (x : Indexer) (address : String) : Dialogue Amount := do
  match ← x.find ("/api/v2/address/" ++ address) readAddress with
  | some listed => Dialogue.ofChecked (Amount.ofMinorText x.currency listed.balance)
  | none => return .zero x.currency

def amount? (x : Indexer) (minor : String) : Option Decimal :=
  match Amount.ofMinorText x.currency minor with
  | .ok a => some a.value
  | .error _ => none

def entry (x : Indexer) (address : String) (tx : ListedTransaction) : HistoryEntry :=
  { id := tx.txid
    kind := "transfer"
    hash := tx.txid
    sender := none
    recipient := some address
    amount := tx.value.bind x.amount?
    time := tx.blockTime.bind Timestamp.ofUnixSeconds? }

def history (x : Indexer) (address : String) : Dialogue (List HistoryEntry) := do
  match ← x.find ("/api/v2/address/" ++ address ++ "?details=txs") readAddress with
  | some listed => return listed.transactions.map (x.entry address)
  | none => return []

def wholeTarget (transfer : Transfer) : Checked UInt64 := do
  let minor ← transfer.amount.minor
  if minor < Coin.wordLimit then return .ofNat minor
  else MultiWallet.fail (.invalidAmount (transfer.amount.toText ++ " too large"))

def assemble (currency : Currency) (transfer : Transfer) (target : UInt64)
    (selection : Coin.Selection) : CoinTransaction :=
  { currency
    inputs := selection.inputs
    outputs :=
      { address := transfer.destination, value := target } ::
        selection.change.toList.map fun change => { address := transfer.source, value := change }
    fee := selection.fee }

def requireCurrency (expected : Currency) (transfer : Transfer) : Checked Unit :=
  if transfer.amount.currency = expected then return ()
  else MultiWallet.fail (.currencyMismatch expected.ticker transfer.amount.currency.ticker)

def build (x : Indexer) (transfer : Transfer) : Dialogue CoinTransaction := do
  requireCurrency x.currency transfer
  let target ← wholeTarget transfer
  let coins ← x.coins transfer.source
  let selection ← Coin.select coins target (Coin.wholeRate transfer.rate) x.currency
  return assemble x.currency transfer target selection

structure Broadcast where
  result : Option String
  error : Option String

def readBroadcast (j : Json) : Option Broadcast := do
  let r ← Json.Record.ofJson? ["result", "error"] j
  return {
    result := ← r.defaulted "result" (Json.asOption Json.asText) none
    error := ← r.defaulted "error" (Json.asOption Json.asText) none }

def submit (x : Indexer) (signed : SignedTransaction) : Dialogue Receipt := do
  let r ← Dialogue.exchange (Http.get (x.base ++ "/api/v2/sendtx/" ++ signed.encoded) none)
  let broadcast ← Dialogue.decodeBody readBroadcast r
  match r.isSuccess, broadcast.result with
  | true, some txid =>
    return { accepted := true, transaction := { signed with hash := txid }, resultCode := none }
  | _, _ =>
    return {
      accepted := false
      transaction := signed
      resultCode := some (broadcast.error.getD (Http.statusText r.status)) }

def maximum (x : Indexer) (address : String) (rate : Decimal) : Dialogue Amount := do
  let coins ← x.coins address
  return .ofMinor x.currency (.ofNat (Coin.sweep coins (Coin.wholeRate rate)))

end Indexer

end MultiWallet
