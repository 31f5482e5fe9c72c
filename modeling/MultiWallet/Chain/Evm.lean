import MultiWallet.Chain.JsonRpc

set_option autoImplicit false

namespace MultiWallet

structure Evm where
  currency : Currency
  url : String
  gasLimit : UInt64
deriving DecidableEq, Repr

namespace Evm

def transferGas : UInt64 := 21000

def weiPerGwei : Decimal := .ofNat 1000000000 (by decide)

def chainId (x : Evm) : UInt64 := (Network.ofUrl x.url).evmChainId

inductive AddressError where
  | wrongLength
  | invalidCharacter (c : Char) (position : Nat)
deriving DecidableEq, Repr

def AddressError.message : AddressError → String
  | wrongLength => "Invalid input length"
  | invalidCharacter c position =>
    "Invalid character '" ++ c.toString ++ "' at position " ++ toString position

def isSkipped (c : Char) : Bool := c == ' ' || c == '\t' || c == '\n' || c == '\r'

/-- The next `wanted` digits, which must be all that the text holds beside blanks. A character
behind them is not looked at: the text is then too long, whatever it is. -/
def addressDigits (wanted position : Nat) : List Char → Except AddressError (List Char)
  | [] => if wanted = 0 then .ok [] else .error .wrongLength
  | c :: rest =>
    if isSkipped c then addressDigits wanted (position + 1) rest
    else
      match wanted with
      | 0 => .error .wrongLength
      | wanted + 1 =>
        if (Text.hexValueOf? c).isSome then do
          let digits ← addressDigits wanted (position + 1) rest
          return c.toLower :: digits
        else .error (.invalidCharacter c position)

def readAddress (text : String) : Except AddressError (List Char) :=
  match text.toList with
  | '0' :: 'x' :: rest => addressDigits 40 0 rest
  | rest => addressDigits 40 0 rest

def address (x : Evm) (text : String) : Checked String :=
  match readAddress text with
  | .ok digits => .ok (String.ofList ('0' :: 'x' :: digits))
  | .error e => fail (.network x.currency ("invalid address " ++ text ++ ": " ++ e.message))

def gasPrice (rate : Decimal) : Checked Decimal := do
  return (← orOverflow (rate.mul? weiPerGwei)).trunc

def call {α : Type} (x : Evm) (method : String) (params : Json) (decode : Json → Option α) :
    Dialogue α :=
  JsonRpc.call x.currency x.url method params decode

def health (x : Evm) : Dialogue Unit := do
  let _ ← x.call "eth_blockNumber" .null (JsonRpc.readQuantity 16)
  return ()

def exists? (x : Evm) (account : String) : Dialogue Bool := do
  let _ ← x.address account
  return true

def balance (x : Evm) (account : String) : Dialogue Amount := do
  let address ← x.address account
  let wei ← x.call "eth_getBalance" (.array [.string address, .string "latest"])
    (JsonRpc.readQuantity 64)
  Dialogue.ofChecked (Amount.ofMinorText x.currency (toString wei))

-- The chain itself keeps no list of an address's transactions.
def history (x : Evm) (account : String) : Dialogue (List HistoryEntry) := do
  let _ ← x.address account
  return []

def build (x : Evm) (transfer : Transfer) : Dialogue EvmTransaction := do
  if transfer.amount.currency ≠ x.currency then
    Dialogue.fail (.currencyMismatch x.currency.ticker transfer.amount.currency.ticker)
  else
    let source ← x.address transfer.source
    let _ ← x.address transfer.destination
    let nonce ← x.call "eth_getTransactionCount" (.array [.string source, .string "latest"])
      (JsonRpc.readQuantity 64)
    let value ← transfer.amount.minor
    let nonce ← orOverflow (if nonce < 2 ^ 64 then some (UInt64.ofNat nonce) else none)
    let price ← gasPrice transfer.rate
    return {
      currency := x.currency
      chainId := x.chainId
      sender := transfer.source
      recipient := transfer.destination
      valueWei := toString value
      nonce
      gasLimit := x.gasLimit
      gasPriceWei := price.toText }

inductive EncodingError where
  | oddLength
  | invalidByte (byte : UInt8) (position : Nat)
deriving DecidableEq, Repr

def EncodingError.message : EncodingError → String
  | oddLength => "Odd number of digits"
  | invalidByte byte position =>
    "Invalid character " ++ Text.quotedChar (Char.ofNat byte.toNat) ++ " at position " ++
      toString position

def checkDigits (position : Nat) : List UInt8 → Except EncodingError Unit
  | [] => .ok ()
  | byte :: rest =>
    if (Text.hexValueOf? (Char.ofNat byte.toNat)).isSome then checkDigits (position + 1) rest
    else .error (.invalidByte byte position)

def withoutMarks : List Char → List Char
  | '0' :: 'x' :: rest => withoutMarks rest
  | rest => rest

def rawDigits (encoded : String) : Except EncodingError (List Char) := do
  let digits := withoutMarks encoded.toList
  let bytes := (String.ofList digits).toUTF8.toList
  if bytes.length % 2 = 1 then .error .oddLength
  else
    checkDigits 0 bytes
    return digits.map Char.toLower

def submit (x : Evm) (signed : SignedTransaction) : Dialogue Receipt := do
  match rawDigits signed.encoded with
  | .error e => Dialogue.fail (.signing ("raw transaction not hex: " ++ e.message))
  | .ok digits => do
    let raw := String.ofList ('0' :: 'x' :: digits)
    let hash ← x.call "eth_sendRawTransaction" (.array [.string raw]) JsonRpc.readHash
    return { accepted := true, transaction := { signed with hash }, resultCode := none }

def transferCost (x : Evm) (rate : Decimal) : Checked Amount := do
  let price ← gasPrice rate
  let wei ← orOverflow (price.mul? (.ofUInt64 x.gasLimit))
  Amount.ofMinorText x.currency wei.toText

def maximum (x : Evm) (account : String) (rate : Decimal) : Dialogue Amount := do
  let balance ← x.balance account
  let cost ← x.transferCost rate
  Dialogue.ofChecked (balance.remainder cost)

end Evm

end MultiWallet
