import MultiWallet.Amount.Wire
import MultiWallet.Transaction

set_option autoImplicit false

namespace MultiWallet

def LedgerOperation.toJson : LedgerOperation → Json
  | .createAccount destination startingBalance =>
    .object
      [("type", .string "create_account"), ("destination", .string destination),
       ("starting_balance", startingBalance.toJson)]
  | .payment destination amount =>
    .object
      [("type", .string "payment"), ("destination", .string destination),
       ("amount", amount.toJson)]

def LedgerTransaction.toJson (tx : LedgerTransaction) : Json :=
  .object
    [("chain", .string "ledger"),
     ("network", .string tx.network.name),
     ("passphrase", .string tx.passphrase),
     ("source", .string tx.source),
     ("sequence", .ofInt tx.sequence),
     ("fee_stroops", .ofNat tx.feeStroops.toNat),
     ("memo", .ofOption .string tx.memo),
     ("operations", .array (tx.operations.map LedgerOperation.toJson))]

def EvmTransaction.toJson (tx : EvmTransaction) : Json :=
  .object
    [("chain", .string "evm"),
     ("currency", tx.currency.toJson),
     ("chain_id", .ofUInt64 tx.chainId),
     ("from", .string tx.sender),
     ("to", .string tx.recipient),
     ("value_wei", .string tx.valueWei),
     ("nonce", .ofUInt64 tx.nonce),
     ("gas_limit", .ofUInt64 tx.gasLimit),
     ("gas_price_wei", .string tx.gasPriceWei)]

def Coin.toJson (coin : Coin) : Json :=
  .object
    [("txid", .string coin.txid), ("vout", .ofNat coin.index.toNat), ("value", .ofUInt64 coin.value)]

def Output.toJson (output : Output) : Json :=
  .object [("address", .string output.address), ("value", .ofUInt64 output.value)]

def CoinTransaction.toJson (tx : CoinTransaction) : Json :=
  .object
    [("chain", .string "utxo"),
     ("currency", tx.currency.toJson),
     ("inputs", .array (tx.inputs.map Coin.toJson)),
     ("outputs", .array (tx.outputs.map Output.toJson)),
     ("fee_minor", .ofUInt64 tx.fee)]

def UnsignedTransaction.toJson : UnsignedTransaction → Json
  | .ledger tx => tx.toJson
  | .evm tx => tx.toJson
  | .coins tx => tx.toJson

def Network.ofJson? : Json → Option Network
  | .string "test" => some .test
  | .string "main" => some .main
  | _ => none

def LedgerOperation.ofJson? (j : Json) : Option LedgerOperation := do
  let r ← Json.Record.ofJson? ["type", "destination", "starting_balance", "amount"] j
  match ← r.required "type" Json.asText with
  | "create_account" =>
    return .createAccount (← r.required "destination" Json.asText)
      (← r.required "starting_balance" Json.asDecimal)
  | "payment" =>
    return .payment (← r.required "destination" Json.asText)
      (← r.required "amount" Json.asDecimal)
  | _ => none

def LedgerTransaction.ofJson? (j : Json) : Option LedgerTransaction := do
  let r ← Json.Record.ofJson?
    ["network", "passphrase", "source", "sequence", "fee_stroops", "memo", "operations"] j
  return {
    network := ← r.required "network" Network.ofJson?
    passphrase := ← r.required "passphrase" Json.asText
    source := ← r.required "source" Json.asText
    sequence := ← r.required "sequence" Json.asInt
    feeStroops := ← r.required "fee_stroops" Json.asUInt32
    memo := ← r.defaulted "memo" (Json.asOption Json.asText) none
    operations := ← r.required "operations" (Json.asArray LedgerOperation.ofJson?) }

def EvmTransaction.ofJson? (j : Json) : Option EvmTransaction := do
  let r ← Json.Record.ofJson?
    ["currency", "chain_id", "from", "to", "value_wei", "nonce", "gas_limit", "gas_price_wei"] j
  return {
    currency := ← r.required "currency" Currency.ofJson?
    chainId := ← r.required "chain_id" Json.asUInt64
    sender := ← r.required "from" Json.asText
    recipient := ← r.required "to" Json.asText
    valueWei := ← r.required "value_wei" Json.asText
    nonce := ← r.required "nonce" Json.asUInt64
    gasLimit := ← r.required "gas_limit" Json.asUInt64
    gasPriceWei := ← r.required "gas_price_wei" Json.asText }

def Coin.ofJson? (j : Json) : Option Coin := do
  let r ← Json.Record.ofJson? ["txid", "vout", "value"] j
  return {
    txid := ← r.required "txid" Json.asText
    index := ← r.required "vout" Json.asUInt32
    value := ← r.required "value" Json.asUInt64 }

def Output.ofJson? (j : Json) : Option Output := do
  let r ← Json.Record.ofJson? ["address", "value"] j
  return {
    address := ← r.required "address" Json.asText
    value := ← r.required "value" Json.asUInt64 }

def CoinTransaction.ofJson? (j : Json) : Option CoinTransaction := do
  let r ← Json.Record.ofJson? ["currency", "inputs", "outputs", "fee_minor"] j
  return {
    currency := ← r.required "currency" Currency.ofJson?
    inputs := ← r.required "inputs" (Json.asArray Coin.ofJson?)
    outputs := ← r.required "outputs" (Json.asArray Output.ofJson?)
    fee := ← r.required "fee_minor" Json.asUInt64 }

def UnsignedTransaction.ofJson? (j : Json) : Option UnsignedTransaction := do
  match ← (← Json.Record.ofJson? ["chain"] j).required "chain" Json.asText with
  | "ledger" => return .ledger (← LedgerTransaction.ofJson? j)
  | "evm" => return .evm (← EvmTransaction.ofJson? j)
  | "utxo" => return .coins (← CoinTransaction.ofJson? j)
  | _ => none

def SignedTransaction.toJson (s : SignedTransaction) : Json :=
  .object
    [("currency", s.currency.toJson), ("hash", .string s.hash), ("encoded", .string s.encoded)]

def SignedTransaction.ofSignature? (currency : Currency) (j : Json) : Option SignedTransaction := do
  let r ← Json.Record.ofJson? ["hash", "encoded"] j
  return {
    currency
    hash := ← r.required "hash" Json.asText
    encoded := ← r.required "encoded" Json.asText }

def Receipt.toJson (r : Receipt) : Json :=
  .object
    [("success", .bool r.accepted), ("transaction", r.transaction.toJson),
     ("result_code", .ofOption .string r.resultCode)]

def Transfer.toJson (t : Transfer) : Json :=
  .object
    [("source", .string t.source),
     ("destination", .string t.destination),
     ("amount", t.amount.toJson),
     ("fee_rate", t.rate.toJson),
     ("memo", .ofOption .string t.memo)]

def Transfer.ofJson? (j : Json) : Option Transfer := do
  let r ← Json.Record.ofJson? ["source", "destination", "amount", "fee_rate", "memo"] j
  return {
    source := ← r.required "source" Json.asText
    destination := ← r.required "destination" Json.asText
    amount := ← r.required "amount" Amount.ofJson?
    rate := ← r.required "fee_rate" Json.asDecimal
    memo := ← r.defaulted "memo" (Json.asOption Json.asText) none }

def Timestamp.toJson (t : Timestamp) : Json := .string t.toText

def Timestamp.ofJson? (j : Json) : Option Timestamp := do ofString (← j.asText)

def HistoryEntry.toJson (e : HistoryEntry) : Json :=
  .object
    [("id", .string e.id),
     ("kind", .string e.kind),
     ("tx_hash", .string e.hash),
     ("from", .ofOption .string e.sender),
     ("to", .ofOption .string e.recipient),
     ("amount", .ofOption Decimal.toJson e.amount),
     ("created_at", .ofOption Timestamp.toJson e.time)]

def HistoryEntry.ofJson? (j : Json) : Option HistoryEntry := do
  let r ← Json.Record.ofJson? ["id", "kind", "tx_hash", "from", "to", "amount", "created_at"] j
  return {
    id := ← r.required "id" Json.asText
    kind := ← r.required "kind" Json.asText
    hash := ← r.required "tx_hash" Json.asText
    sender := ← r.defaulted "from" (Json.asOption Json.asText) none
    recipient := ← r.defaulted "to" (Json.asOption Json.asText) none
    amount := ← r.defaulted "amount" (Json.asOption Json.asDecimal) none
    time := ← r.defaulted "created_at" (Json.asOption Timestamp.ofJson?) none }

end MultiWallet
