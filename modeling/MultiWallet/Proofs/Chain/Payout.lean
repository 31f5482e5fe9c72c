import MultiWallet.Proofs.Chain.Evm
import MultiWallet.Proofs.Chain.Indexer

set_option autoImplicit false

namespace MultiWallet

open Dialogue

namespace LedgerOperation

def destination : LedgerOperation → String
  | createAccount destination _ => destination
  | payment destination _ => destination

def lumens : LedgerOperation → Amount
  | createAccount _ value => { currency := .xlm, value }
  | payment _ value => { currency := .xlm, value }

end LedgerOperation

/-- Whom the transaction pays, and how many smallest units of its currency. -/
def UnsignedTransaction.payout? : UnsignedTransaction → Option (String × ℚ)
  | .ledger { operations := [operation], .. } => some (operation.destination, operation.lumens.units)
  | .ledger _ => none
  | .evm tx => tx.valueWei.toNat?.map fun wei => (tx.recipient, wei)
  -- What comes after the first output is change.
  | .coins tx => tx.outputs.head?.map fun output => (output.address, output.value.toNat)

@[simp] theorem UnsignedTransaction.payout?_withGasLimit (tx : UnsignedTransaction)
    (limit : Option UInt64) : (tx.withGasLimit limit).payout? = tx.payout? := by
  cases tx <;> rfl

namespace ChainClient

def counts : ChainClient → Bool
  | .indexer _ _ | .evm _ _ _ => true
  | .stellar _ _ | .external _ _ => false

/-- What transactions of the chain pay where this amount is asked for, in smallest units. -/
def payout? (chain : ChainClient) (amount : Amount) : Option ℚ :=
  match chain with
  | .indexer _ _ | .evm _ _ _ => some ⌊amount.units⌋₊
  | .stellar _ _ => some amount.units
  | .external _ _ => none

theorem payout?_of_counts {chain : ChainClient} (counts : chain.counts = true) (amount : Amount) :
    chain.payout? amount = some (⌊amount.units⌋₊ : ℚ) := by
  cases chain with
  | indexer currency base => rfl
  | evm currency url gasLimit => rfl
  | stellar server network => cases counts
  | external name currency => cases counts

theorem payout_whole_iff {chain : ChainClient} {amount : Amount} {paid : ℚ}
    (pays : chain.payout? amount = some paid) :
    0 < ⌊amount.units⌋₊ ∧ paid = ⌊amount.units⌋₊ ↔
      1 ≤ amount.units ∧ (chain.counts = true ∨ amount.Whole) := by
  rw [Nat.floor_pos]
  apply and_congr_right
  intro _
  cases chain with
  | external name currency => cases pays
  | indexer currency base =>
    cases pays
    simp [counts]
  | evm currency url gasLimit =>
    cases pays
    simp [counts]
  | stellar server network =>
    cases pays
    rw [eq_comm, amount.floor_units_eq_iff]
    simp [counts]

end ChainClient

variable {oracle : Oracle} {s t : Session} {transfer : Transfer}

theorem Indexer.build_pays {x : Indexer} {tx : CoinTransaction}
    (built : (x.build transfer).run oracle s = (.ok tx, t))
    (nonnegative : 0 ≤ transfer.amount.value.signed) :
    (UnsignedTransaction.coins tx).payout? =
      some (transfer.destination, (⌊transfer.amount.units⌋₊ : ℚ)) := by
  obtain ⟨-, target, _, _, counted, -, -, rfl⟩ := run_build_eq_ok.1 built
  have whole := Amount.minor_eq_floor nonnegative counted
  simp [UnsignedTransaction.payout?, assemble, whole]

theorem Evm.build_pays {x : Evm} {tx : EvmTransaction}
    (built : (x.build transfer).run oracle s = (.ok tx, t))
    (nonnegative : 0 ≤ transfer.amount.value.signed) :
    (UnsignedTransaction.evm tx).payout? =
      some (transfer.destination, (⌊transfer.amount.units⌋₊ : ℚ)) := by
  obtain ⟨-, _, _, value, _, -, -, -, counted, -, rfl⟩ := run_build_eq_ok.1 built
  have whole := Amount.minor_eq_floor nonnegative counted
  simp [UnsignedTransaction.payout?, Nat.toString_eq_repr, whole]

namespace Stellar

variable {x : Stellar}

theorem operationFor_pays {destination : String} {value : Decimal} {operation : LedgerOperation}
    (chosen : (x.operationFor destination value).run oracle s = (.ok operation, t)) :
    operation.destination = destination ∧
      operation.lumens = { currency := .xlm, value } := by
  obtain ⟨known, _, -, chosen⟩ := run_bind_eq_ok.1 chosen
  cases known <;> cases chosen <;> exact ⟨rfl, rfl⟩

theorem build_pays {tx : LedgerTransaction}
    (built : (x.build transfer).run oracle s = (.ok tx, t)) :
    (UnsignedTransaction.ledger tx).payout? =
      some (transfer.destination, transfer.amount.units) := by
  unfold build at built
  split at built
  next => cases built
  next lumens =>
    simp only [run_bind_eq_ok, run_pure, Prod.mk.injEq, Except.ok.injEq] at built
    obtain ⟨_, _, -, _, _, -, operation, _, chosen, rfl, -⟩ := built
    obtain ⟨destination, amount⟩ := operationFor_pays chosen
    have currency : transfer.amount.currency = .xlm := by simpa using lumens
    simp only [UnsignedTransaction.payout?, destination, amount, ← currency]

end Stellar

theorem ChainClient.build_pays {chain : ChainClient} {tx : UnsignedTransaction} {paid : ℚ}
    (built : (chain.build transfer).run oracle s = (.ok tx, t))
    (nonnegative : 0 ≤ transfer.amount.value.signed)
    (pays : chain.payout? transfer.amount = some paid) :
    tx.payout? = some (transfer.destination, paid) := by
  cases chain with
  | external name currency => cases pays
  | indexer currency base =>
    cases pays
    obtain ⟨_, made, rfl⟩ := run_map_eq_ok.1 built
    exact Indexer.build_pays made nonnegative
  | stellar server network =>
    cases pays
    obtain ⟨_, made, rfl⟩ := run_map_eq_ok.1 built
    exact Stellar.build_pays made
  | evm currency url gasLimit =>
    cases pays
    obtain ⟨_, made, rfl⟩ := run_map_eq_ok.1 built
    exact Evm.build_pays made nonnegative

theorem Payment.build_pays {p : Payment} {amount : Amount} {sender : Sender} {destination : String}
    {memo : Option String} {schedule : FeeSchedule} {type : FeeType} {tx : UnsignedTransaction}
    {paid : ℚ}
    (built : (p.build amount sender destination memo schedule type).run oracle s = (.ok tx, t))
    (nonnegative : 0 ≤ amount.value.signed) (pays : p.chain.payout? amount = some paid) :
    tx.payout? = some (destination, paid) := by
  simp only [build, run_bind_eq_ok, run_pure, Prod.mk.injEq, Except.ok.injEq] at built
  obtain ⟨bare, _, made, rfl, -⟩ := built
  rw [UnsignedTransaction.payout?_withGasLimit]
  exact ChainClient.build_pays made nonnegative pays

end MultiWallet
