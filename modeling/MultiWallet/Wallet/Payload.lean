import MultiWallet.Account.Wire
import MultiWallet.Dialogue.Basic
import MultiWallet.Text.Hex
import MultiWallet.Wallet.Keccak

set_option autoImplicit false

namespace MultiWallet

structure Payload where
  sharedKey : String
  passwordDigest : Option String
  passwordIterations : Option UInt32
  entries : List (Currency × List WalletEntry)
deriving DecidableEq, Repr

namespace Payload

def defaultIterations : UInt32 := 5000

def passwordDigestOf (sharedKey password : String) (iterations : Nat) : String :=
  Text.hexOfBytes
    (Nat.repeat Keccak.digest (iterations - 1)
      (Keccak.digest (sharedKey ++ password).toUTF8.toList))

def accepts (p : Payload) (password : String) : Bool :=
  match p.passwordDigest with
  | none => false
  | some expected =>
    let iterations := (p.passwordIterations.getD defaultIterations).toNat
    Text.sameIgnoringCase (passwordDigestOf p.sharedKey password iterations) expected

def readEntries (j : Json) : Option (List (Currency × List WalletEntry)) := do
  (← Json.asMap (Json.asArray WalletEntry.ofJson?) j).mapM fun (ticker, entries) => do
    return (← Currency.ofExactTicker? ticker, entries)

def ofJson? (j : Json) : Option Payload := do
  let r ← Json.Record.ofJson?
    ["shared_key", "second_password_hash", "password_iterations", "accounts"] j
  return {
    sharedKey := ← r.required "shared_key" Json.asText
    passwordDigest := ← r.defaulted "second_password_hash" (Json.asOption Json.asText) none
    passwordIterations := ← r.defaulted "password_iterations" (Json.asOption Json.asUInt32) none
    entries := ← r.defaulted "accounts" readEntries [] }

def malformed : Failure := .wallet "Malformed payload"

def unreadable : Failure := .wallet "Failed to read payload"

def ofText (text : String) : Checked Payload :=
  orFail malformed ((Json.ofString text).bind ofJson?)

def entriesFor (p : Payload) (currency : Currency) : Checked (List WalletEntry) :=
  orFail (.wallet ("No " ++ currency.ticker ++ " accounts in wallet")) (p.entries.lookup currency)

end Payload

inductive WalletRecords where
  | payload (p : Payload)
  | external
deriving DecidableEq, Repr

def WalletRecords.entries (records : WalletRecords) (currency : Currency) :
    Dialogue (List WalletEntry) :=
  match records with
  | payload p => Dialogue.ofChecked (p.entriesFor currency)
  | external => do
    let answer : Answer (List WalletEntry) ← Dialogue.ask (.walletEntries currency)
    Dialogue.ofAnswer answer

end MultiWallet
