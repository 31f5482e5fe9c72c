import MultiWallet.Proofs.Chain.Capacity
import MultiWallet.Proofs.Chain.Inquiry
import MultiWallet.Proofs.Handover
import MultiWallet.Proofs.Replay

set_option autoImplicit false

namespace MultiWallet

open Dialogue

def LedgerTransaction.withMemo (memo : Option String) (tx : LedgerTransaction) :
    LedgerTransaction := { tx with memo }

namespace UnsignedTransaction

def withMemo (memo : Option String) : UnsignedTransaction → UnsignedTransaction
  | .ledger tx => .ledger (tx.withMemo memo)
  | tx => tx

@[simp] theorem fee_withMemo (memo : Option String) (tx : UnsignedTransaction) :
    (tx.withMemo memo).fee = tx.fee := by
  cases tx <;> rfl

theorem withMemo_withGasLimit (memo : Option String) (limit : Option UInt64)
    (tx : UnsignedTransaction) :
    (tx.withMemo memo).withGasLimit limit = (tx.withGasLimit limit).withMemo memo := by
  cases tx <;> rfl

end UnsignedTransaction

variable {memo : Option String}

theorem Stellar.build_replays (x : Stellar) (transfer : Transfer) :
    Replays (LedgerTransaction.withMemo memo) (x.build { transfer with memo := none })
      (x.build { transfer with memo }) := by
  unfold build
  split
  · exact replays_ofChecked _ _
  · refine (x.server.account_plain transfer.source).determined.bind fun source => ?_
    refine (determined_ofChecked source.nextSequence).bind fun sequence => ?_
    exact (x.operationFor_plain _ _).determined.bind fun operation => replays_pure _ _

theorem ChainClient.build_replays {chain : ChainClient} (own : chain.Own) (transfer : Transfer) :
    Replays (UnsignedTransaction.withMemo memo) (chain.build { transfer with memo := none })
      (chain.build { transfer with memo }) := by
  cases chain with
  | external name currency => exact own.elim
  | indexer currency base =>
    exact (Indexer.build_plain _ { transfer with memo := none }).determined.map fun _ => rfl
  | stellar server network => exact (Stellar.build_replays _ transfer).map fun _ => rfl
  | evm currency url gasLimit =>
    exact (Evm.build_plain (P := Reached) (fun _ _ => Call.to_web _ _)
      { transfer with memo := none }).determined.map fun _ => rfl

namespace Payment

theorem build_replays {p : Payment} (own : p.chain.Own) (amount : Amount) (sender : Sender)
    (destination : String) (schedule : FeeSchedule) (type : FeeType) :
    Replays (UnsignedTransaction.withMemo memo)
      (p.build amount sender destination none schedule type)
      (p.build amount sender destination memo schedule type) := by
  refine (ChainClient.build_replays own
    { source := sender.address, destination, amount, rate := schedule.rate type, memo }).bind ?_
  intro tx
  rw [UnsignedTransaction.withMemo_withGasLimit]
  exact replays_pure _ _

/-- The estimate stands for one transaction. A payment with any memo builds that transaction with
this memo, at the estimated fee, and it is all that is handed to the signer, as long as the upstream
answers as it did before. -/
theorem estimate_signed (p : Payment) (own : p.chain.Own) (amount : Amount) (sender : Sender)
    (destination : String) (schedule : FeeSchedule) (type : FeeType) (oracle : Oracle)
    (s t : Session) (fee : Amount)
    (estimated : (p.fee amount sender destination schedule type).run oracle s = (.ok fee, t)) :
    ∃ calls tx, t.calls = s.calls ++ calls ∧
      (p.build amount sender destination none schedule type).run oracle s = (.ok tx, t) ∧
      tx.fee = .ok fee ∧
      ∀ (memo : Option String) (later : Oracle) (u v : Session) (result : Checked String),
        later.Repeats oracle u.calls s.calls calls →
        (p.execute amount sender destination memo schedule type).run later u = (result, v) →
        ∃ built rest, (p.build amount sender destination memo schedule type).run later u =
            (.ok (tx.withMemo memo), built) ∧
          (tx.withMemo memo).fee = .ok fee ∧
          v.calls = u.calls ++ (calls ++ p.signer.request (tx.withMemo memo) :: rest) ∧
          ∀ c ∈ calls ++ rest, ¬ p.signer.Asked c := by
  obtain ⟨tx, u, building, reckoned⟩ := run_bind_eq_ok.1 estimated
  obtain ⟨charged, rfl⟩ : tx.fee = .ok fee ∧ u = t := by simpa using reckoned
  obtain ⟨calls, log, quiet⟩ :=
    (p.build_asks amount sender destination none schedule type).of_run building
  refine ⟨calls, tx, log, building, charged, ?_⟩
  intro memo later u v result repeats executed
  obtain ⟨built, rebuilt, same⟩ :=
    (build_replays own amount sender destination schedule type).of_run building log repeats
  rw [execute, run_bind_ok rebuilt] at executed
  obtain ⟨_, handed, rest, rfl, silent⟩ := (p.sign_once amount _).of_run executed
  refine ⟨built, rest, rebuilt, by rw [UnsignedTransaction.fee_withMemo, charged], ?_, ?_⟩
  · rw [handed, same, List.append_assoc]
  · intro c member
    rcases List.mem_append.1 member with member | member
    · exact (quiet c member).unasked
    · exact silent c member

theorem estimate_signed_tenLumens :
    lumens.chain.Own ∧
      (lumens.fee tenLumens.amount tenLumens.sender tenLumens.destination tenLumens.schedule
        tenLumens.type).run refusing .empty = (.ok (.ofMinor .xlm 100), lumensBuilt) ∧
      ∃ result v, (lumens.execute tenLumens.amount tenLumens.sender tenLumens.destination
          (some "rent") tenLumens.schedule tenLumens.type).run refusing lumensBuilt = (result, v) ∧
        lumens.signer.request (lumensTx.withMemo (some "rent")) ∈ v.calls ∧
        (lumensTx.withMemo (some "rent")).fee = .ok (.ofMinor .xlm 100) := by
  have estimated : (lumens.fee tenLumens.amount tenLumens.sender tenLumens.destination
      tenLumens.schedule tenLumens.type).run refusing .empty =
        (.ok (.ofMinor .xlm 100), lumensBuilt) := run_bind_ok run_prepare_tenLumens _
  obtain ⟨calls, tx, -, building, -, payments⟩ :=
    estimate_signed lumens trivial _ _ _ _ _ _ _ _ _ estimated
  cases run_prepare_tenLumens.symm.trans building
  obtain ⟨built, rest, -, charged, handed, -⟩ :=
    payments (some "rent") refusing lumensBuilt _ _ (fun _ c _ => by cases c <;> rfl) rfl
  exact ⟨trivial, estimated, _, _, rfl, by rw [handed]; simp, charged⟩

end Payment

end MultiWallet
