import MultiWallet.Proofs.Memo
import MultiWallet.Proofs.Registry.Targets

set_option autoImplicit false

namespace MultiWallet

open Dialogue

def Trade.swap (source target : CryptoAccount) (custodian : Custodian) : Trade :=
  { source, target := .crypto target, kind := .swap, custodian }

theorem Trade.swap_proceeds {source target : CryptoAccount} (custodian : Custodian)
    (foreign : target.currency ≠ source.currency) :
    (Trade.swap source target custodian).proceeds = .ok (.crypto target.currency) := by
  simp [swap, proceeds, foreign]

theorem Engine.swap_same {source a b : CryptoAccount} (custodian : Custodian)
    (foreign : a.currency ≠ source.currency) (same : a.currency = b.currency) (deposit : Engine) :
    Engine.Same (.fundedTrade (.swap source a custodian) deposit)
      (.fundedTrade (.swap source b custodian) deposit) := by
  have one := Trade.swap_proceeds custodian foreign
  have other := Trade.swap_proceeds custodian (same ▸ foreign)
  constructor
  · simp only [Engine.validate, one, other, same]
  · intro amount level
    simp only [Engine.execute, one, other, same]
    rfl

theorem Asset.engine_asks (a : Asset) (source : CryptoAccount) (target : Target) :
    (a.engine source target).Asks Call.Reads := by
  unfold engine
  split
  · exact asks_pure _
  · exact asks_pure _
  · exact asks_fail _
  · exact .bind (asks_ask rfl) fun _ => .bind (asks_ofAnswer _) fun _ => asks_pure _

namespace Processor

variable {asset : Asset} {custodian : Custodian} {source a b : CryptoAccount} {amount : Amount}
  {level : FeeLevel}

theorem execute_same {p q : Processor} (source : p.source = q.source)
    (same : p.engine.Same q.engine) (amount : Amount) (level : FeeLevel) :
    p.execute amount level = q.execute amount level := by
  simp only [execute, requireCurrency, source, same.1, same.2]

theorem tradeEngine_swap (own : source.isCustodial = false) (a : CryptoAccount) :
    tradeEngine asset custodian source .swap (.account (.crypto a)) = (do
      let address ← custodian.depositAddress source.currency
      let deposit ← asset.engine source (.address (.of source.currency address))
      return .fundedTrade (.swap source a custodian) deposit) := by
  simp only [tradeEngine, own]
  rfl

theorem create_swap_asks (asset : Asset) (custodian : Custodian) (own : source.isCustodial = false)
    (a : CryptoAccount) :
    (create asset custodian source (.account (.crypto a)) .swap).Asks Call.Reads := by
  have chosen : (tradeEngine asset custodian source .swap (.account (.crypto a))).Asks
      Call.Reads := by
    rw [tradeEngine_swap own]
    refine .bind (custodian.depositAddress_asks _) fun address => ?_
    exact .bind (asset.engine_asks _ _) fun deposit => asks_pure _
  unfold create
  split
  · refine .bind chosen fun engine => .bind (asks_count _) fun _ => .bind ?_ fun id => asks_pure _
    exact fun _ s => ⟨[], (List.append_nil s.calls).symm, by simp⟩
  · exact asks_fail _

theorem create_swap_execute (own : source.isCustodial = false)
    (foreign : a.currency ≠ source.currency) (same : a.currency = b.currency) (amount : Amount)
    (level : FeeLevel) :
    (create asset custodian source (.account (.crypto a)) .swap >>= fun p =>
        p.execute amount level) =
      create asset custodian source (.account (.crypto b)) .swap >>= fun p =>
        p.execute amount level := by
  have alike (id : Nat) (deposit : Engine) :
      ({ id, source, target := .account (.crypto a), action := .swap
         engine := .fundedTrade (.swap source a custodian) deposit : Processor }).execute amount
          level =
        ({ id, source, target := .account (.crypto b), action := .swap
           engine := .fundedTrade (.swap source b custodian) deposit : Processor }).execute amount
          level := by
    apply execute_same
    · rfl
    · exact Engine.swap_same custodian foreign same deposit
  unfold create
  split
  next => simp only [chooseEngine, tradeEngine_swap own, bind, bind_assoc, pure_bind, alike]
  next => rfl

theorem swap_ordered {p : Processor} {creation oracle : Oracle} {s t u v : Session}
    {result : Checked String} (own : source.isCustodial = false)
    (created : (create asset custodian source (.account (.crypto a)) .swap).run creation s =
      (.ok p, t))
    (executed : (p.execute amount level).run oracle u = (result, v)) :
    ∃ calls, v.calls = u.calls ++ calls ∧ ∀ c ∈ calls, custodian.Ordered c →
      ∃ order : Order, c = custodian.orderCall order ∧ order.kind = .swap ∧
        order.source = source.currency ∧ order.amount = amount.value ∧
        order.proceeds = .crypto a.currency := by
  obtain ⟨_, _, _, _, calls, -, -, log, last⟩ := created_order (.inr rfl) own created executed
  refine ⟨calls, log, ?_⟩
  intro c member ordered
  obtain ⟨order, _, _, _, _, trades, sent, -⟩ := last c member ordered
  obtain ⟨impossible, -⟩ | ⟨-, kind, crypto, target, proceeds⟩ := trades.proceeds
  · cases impossible
  · cases target
    exact ⟨order, sent, kind, trades.source, trades.amount, proceeds⟩

end Processor

namespace Registry

def transfer (r : Registry) (source : Account) (target : Target) (action : Action) (amount : Amount)
    (level : FeeLevel) : Dialogue String := do
  let p ← r.startTransfer source target action
  p.execute amount level

/-- For funds of one's own, it makes no difference which of the accounts of a currency is chosen to
receive the proceeds of a swap: the same calls are made, with the same end. An order that is placed
names the currency only. -/
theorem swap_target_untold (r : Registry) (source a b : CryptoAccount)
    (own : source.isCustodial = false) (offered : isEligible .swap source (.crypto a) = true)
    (same : a.currency = b.currency) (amount : Amount) (level : FeeLevel) :
    r.transfer (.crypto source) (.account (.crypto a)) .swap amount level =
        r.transfer (.crypto source) (.account (.crypto b)) .swap amount level ∧
      ∀ oracle s result t,
        (r.transfer (.crypto source) (.account (.crypto a)) .swap amount level).run oracle s =
            (result, t) →
          ∃ calls, t.calls = s.calls ++ calls ∧ ∀ c ∈ calls, r.custodian.Ordered c →
            ∃ order : Order, c = r.custodian.orderCall order ∧ order.kind = .swap ∧
              order.source = source.currency ∧ order.amount = amount.value ∧
              order.proceeds = .crypto a.currency := by
  constructor
  · have foreign : a.currency ≠ source.currency := by
      simp only [isEligible, own, Bool.and_eq_true, bne_iff_ne] at offered
      exact offered.1
    simp only [transfer, startTransfer, bind_assoc]
    congr 1
    funext asset
    exact Processor.create_swap_execute own foreign same amount level
  · intro oracle s result t run
    unfold transfer startTransfer at run
    rw [bind_assoc] at run
    obtain ⟨halt, -, -, rfl⟩ | ⟨asset, -, run⟩ := run_liftM_bind_cases run
    · exact ⟨[], (List.append_nil _).symm, by simp⟩
    have asks := Processor.create_swap_asks asset r.custodian own a
    obtain ⟨halt, created, rfl⟩ | ⟨p, u, created, executed⟩ := run_bind_cases run
    · obtain ⟨calls, log, reads⟩ := asks.of_run created
      refine ⟨calls, log, ?_⟩
      intro c member ordered
      exact absurd ordered (Custodian.not_ordered_of_reads (reads c member))
    · obtain ⟨earlier, before, reads⟩ := asks.of_run created
      obtain ⟨later, log, orders⟩ := Processor.swap_ordered own created executed
      refine ⟨earlier ++ later, by rw [log, before, List.append_assoc], ?_⟩
      intro c member ordered
      rcases List.mem_append.1 member with member | member
      · exact absurd ordered (Custodian.not_ordered_of_reads (reads c member))
      · exact orders c member ordered

def externalRegistry : Registry :=
  { records := .external, custodian := .external, reporter := .external, labels := {}
    assets := [Processor.bitcoins] }

-- The custodian holds the ether of this account.
def heldEther : CryptoAccount :=
  { ownEther with custody := .custodial, backend := .addressOnly "0xheld" }

def etherOrder : Order :=
  { kind := .swap, source := .btc, proceeds := .crypto .eth, amount := Processor.oneBitcoin.value
    depositHash := some "deposit" }

theorem swap_target_untold_ether :
    isEligible .swap (Processor.bitcoinAccount .nonCustodial) (.crypto ownEther) = true ∧
      ∃ t, (externalRegistry.transfer (.crypto (Processor.bitcoinAccount .nonCustodial))
            (.account (.crypto ownEther)) .swap Processor.oneBitcoin .regular).run
            (Processor.accepting (.ok "order")) .empty = (.ok "order", t) ∧
          (externalRegistry.transfer (.crypto (Processor.bitcoinAccount .nonCustodial))
            (.account (.crypto heldEther)) .swap Processor.oneBitcoin .regular).run
            (Processor.accepting (.ok "order")) .empty = (.ok "order", t) ∧
          ∃ order, .placeOrder order ∈ t.calls ∧ order.proceeds = .crypto .eth := by
  obtain ⟨same, orders⟩ := swap_target_untold externalRegistry
    (Processor.bitcoinAccount .nonCustodial) ownEther heldEther rfl rfl rfl Processor.oneBitcoin
    .regular
  refine ⟨rfl, _, rfl, by rw [← same]; rfl, etherOrder, by decide, ?_⟩
  obtain ⟨calls, log, named⟩ := orders (Processor.accepting (.ok "order")) .empty _ _ rfl
  have placed : .placeOrder etherOrder ∈ calls := by
    have all : Session.empty.calls ++ calls = calls := rfl
    rw [← all, ← log]
    decide
  obtain ⟨order, sent, -, -, -, proceeds⟩ := named _ placed ⟨_, rfl⟩
  cases sent
  exact proceeds

theorem swap_destination_lost :
    isEligible .swap (Processor.bitcoinAccount .nonCustodial) (.crypto ownEther) = true ∧
      isEligible .swap (Processor.bitcoinAccount .nonCustodial) (.crypto heldEther) = true ∧
      ownEther.currency = heldEther.currency ∧ ownEther.isCustodial ≠ heldEther.isCustodial ∧
      (∃ u v, ownEther.receiveAddress.run (Processor.accepting (.ok "order")) .empty =
          (.ok (.of .eth "0xmine"), u) ∧
        heldEther.receiveAddress.run (Processor.accepting (.ok "order")) .empty =
          (.ok (.of .eth "0xheld"), v)) ∧
      ∃ t u, (externalRegistry.transfer (.crypto (Processor.bitcoinAccount .nonCustodial))
            (.account (.crypto ownEther)) .swap Processor.oneBitcoin .regular).run
            (Processor.accepting (.ok "order")) .empty = (.ok "order", t) ∧
          (externalRegistry.transfer (.crypto (Processor.bitcoinAccount .nonCustodial))
            (.account (.crypto heldEther)) .swap Processor.oneBitcoin .regular).run
            (Processor.accepting (.ok "order")) .empty = (.ok "order", u) ∧
          t.calls = u.calls ∧ .placeOrder etherOrder ∈ t.calls := by
  refine ⟨rfl, rfl, rfl, by decide, ⟨_, _, rfl, rfl⟩, _, _, rfl, rfl, rfl, ?_⟩
  decide

end Registry

end MultiWallet
