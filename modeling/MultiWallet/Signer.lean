import MultiWallet.Dialogue.Basic
import MultiWallet.Transaction.Wire

set_option autoImplicit false

namespace MultiWallet

inductive Signer where
  | external
  | http (url : String)
deriving DecidableEq, Repr

namespace Signer

def ofUrl (url : String) : Signer := http (Http.trimSlashes url ++ "/sign")

def sign (signer : Signer) (tx : UnsignedTransaction) : Dialogue SignedTransaction :=
  match signer with
  | external => do
    let answer : Answer SignedTransaction ← Dialogue.ask (.sign tx)
    Dialogue.ofAnswer answer
  | http url => do
    let r ← Dialogue.exchange (Http.postJson url none (.object [("transaction", tx.toJson)]))
    if r.isSuccess then Dialogue.decodeBody (SignedTransaction.ofSignature? tx.currency) r
    else Dialogue.fail (.signing (Http.statusText r.status ++ ": " ++ r.body))

end Signer

end MultiWallet
