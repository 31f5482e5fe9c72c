import MultiWallet.Chain.Evm
import MultiWallet.Chain.Indexer
import MultiWallet.Chain.Stellar

set_option autoImplicit false

namespace MultiWallet.ChainClient

def health : ChainClient → Dialogue Unit
  | .external name _ => do
    let answer : Answer Unit ← Dialogue.ask (.chainHealth name)
    Dialogue.ofAnswer answer
  | .indexer currency base => ({ currency, base : Indexer }).health
  | .stellar server network => ({ server, network : Stellar }).health
  | .evm currency url gasLimit => ({ currency, url, gasLimit : Evm }).health

def exists? (chain : ChainClient) (account : String) : Dialogue Bool :=
  match chain with
  | .external name _ => do
    let answer : Answer Bool ← Dialogue.ask (.chainExists name account)
    Dialogue.ofAnswer answer
  | .indexer _ _ => return true
  | .stellar server network => ({ server, network : Stellar }).exists? account
  | .evm currency url gasLimit => ({ currency, url, gasLimit : Evm }).exists? account

def balance (chain : ChainClient) (account : String) : Dialogue Amount :=
  match chain with
  | .external name _ => do
    let answer : Answer Amount ← Dialogue.ask (.chainBalance name account)
    Dialogue.ofAnswer answer
  | .indexer currency base => ({ currency, base : Indexer }).balance account
  | .stellar server network => ({ server, network : Stellar }).balance account
  | .evm currency url gasLimit => ({ currency, url, gasLimit : Evm }).balance account

def history (chain : ChainClient) (account : String) : Dialogue (List HistoryEntry) :=
  match chain with
  | .external name _ => do
    let answer : Answer (List HistoryEntry) ← Dialogue.ask (.chainHistory name account)
    Dialogue.ofAnswer answer
  | .indexer currency base => ({ currency, base : Indexer }).history account
  | .stellar server network => ({ server, network : Stellar }).history account
  | .evm currency url gasLimit => ({ currency, url, gasLimit : Evm }).history account

def build (chain : ChainClient) (transfer : Transfer) : Dialogue UnsignedTransaction :=
  match chain with
  | .external name _ => do
    let answer : Answer UnsignedTransaction ← Dialogue.ask (.chainBuild name transfer)
    Dialogue.ofAnswer answer
  | .indexer currency base => .coins <$> ({ currency, base : Indexer }).build transfer
  | .stellar server network => .ledger <$> ({ server, network : Stellar }).build transfer
  | .evm currency url gasLimit => .evm <$> ({ currency, url, gasLimit : Evm }).build transfer

def submit (chain : ChainClient) (signed : SignedTransaction) : Dialogue Receipt :=
  match chain with
  | .external name _ => do
    let answer : Answer Receipt ← Dialogue.ask (.chainSubmit name signed)
    Dialogue.ofAnswer answer
  | .indexer currency base => ({ currency, base : Indexer }).submit signed
  | .stellar server network => ({ server, network : Stellar }).submit signed
  | .evm currency url gasLimit => ({ currency, url, gasLimit : Evm }).submit signed

def maximum (chain : ChainClient) (account : String) (rate : Decimal) : Dialogue Amount :=
  match chain with
  | .external name _ => do
    let answer : Answer Amount ← Dialogue.ask (.chainMaximum name account rate)
    Dialogue.ofAnswer answer
  | .indexer currency base => ({ currency, base : Indexer }).maximum account rate
  | .stellar server network => ({ server, network : Stellar }).maximum account rate
  | .evm currency url gasLimit => ({ currency, url, gasLimit : Evm }).maximum account rate

end MultiWallet.ChainClient
