import MultiWallet.Proofs.Engine

set_option autoImplicit false

namespace MultiWallet

open Dialogue

namespace Custodian

def orderCall (custodian : Custodian) (order : Order) : Call :=
  match custodian with
  | external => .placeOrder order
  | http base token =>
    .http (Http.postJson (({ base, token : Endpoint }).url "/custodial/trades" [])
      (Http.bearer token) order.toJson)

theorem placeOrder_traces (custodian : Custodian) (order : Order) :
    (custodian.placeOrder order).Traces fun _ calls => calls = [custodian.orderCall order] := by
  cases custodian with
  | external => exact .bind_silent (traces_ask _) asks_ofAnswer
  | http base token =>
    refine .bind_silent (traces_exchange _) fun r => ?_
    split
    · exact asks_decodeBody _ _
    · exact asks_fail _

theorem orderCall_instructs (custodian : Custodian) (order : Order) :
    (custodian.orderCall order).instructs = true := by
  cases custodian <;> rfl

def Ordered (custodian : Custodian) (c : Call) : Prop := ∃ order, c = custodian.orderCall order

theorem not_ordered_of_uninstructed {custodian : Custodian} {c : Call}
    (uninstructed : c.instructs = false) : ¬ custodian.Ordered c := by
  rintro ⟨order, rfl⟩
  rw [orderCall_instructs] at uninstructed
  cases uninstructed

theorem not_ordered_of_reads {custodian : Custodian} {c : Call} (reads : c.Reads) :
    ¬ custodian.Ordered c :=
  not_ordered_of_uninstructed (Call.not_instructs_of_reads reads)

end Custodian

/-- The order is for this amount of the source's currency and goes to the target: as money where it
is sold, in the target's currency where it is swapped. -/
structure Order.Trades (o : Order) (source : CryptoAccount) (target : Target) (action : Action)
    (amount : Amount) : Prop where
  source : o.source = source.currency
  amount : o.amount = amount.value
  proceeds : (action = .sell ∧ o.kind = .sell ∧
      ∃ account, target = .account (.fiat account) ∧ o.proceeds = .fiat account.code) ∨
    (action = .swap ∧ o.kind = .swap ∧
      ∃ account, target = .account (.crypto account) ∧ o.proceeds = .crypto account.currency)

/-- What the execution of a funded trade has come to: nothing was done, the deposit failed, or the
order was placed with the hash of the deposit. -/
inductive Trade.Course (trade : Trade) (deposit : Engine) (amount : Amount) (level : FeeLevel)
    (oracle : Oracle) (s : Session) : Checked String → Session → Prop where
  | unknown (halt : Halt) : Course trade deposit amount level oracle s (.error halt) s
  | unfunded {t : Session} (halt : Halt)
      (paying : (deposit.execute amount level).run oracle s = (.error halt, t)) :
      Course trade deposit amount level oracle s (.error halt) t
  | ordered {t : Session} {result : Checked String} (proceeds : Proceeds) (hash : String)
      (w : Session) (known : trade.proceeds = .ok proceeds)
      (paying : (deposit.execute amount level).run oracle s = (.ok hash, w))
      (ordering : (trade.custodian.placeOrder (trade.order proceeds amount (some hash))).run oracle
        w = (result, t)) : Course trade deposit amount level oracle s result t

theorem Trade.course {trade : Trade} {deposit : Engine} {amount : Amount} {level : FeeLevel}
    {oracle : Oracle} {s t : Session} {result : Checked String}
    (executed : ((Engine.fundedTrade trade deposit).execute amount level).run oracle s =
      (result, t)) : trade.Course deposit amount level oracle s result t := by
  obtain ⟨halt, -, rfl, rfl⟩ | ⟨proceeds, known, executed⟩ := run_liftM_bind_cases executed
  · exact .unknown halt
  obtain ⟨halt, paying, rfl⟩ | ⟨hash, w, paying, ordering⟩ := run_bind_cases executed
  · exact .unfunded halt paying
  · exact .ordered proceeds hash w known paying ordering

namespace Processor

variable {asset : Asset} {custodian : Custodian} {source : CryptoAccount} {target : Target}
  {action : Action} {oracle : Oracle} {s t : Session}

theorem tradeTarget_eq_ok {kind : OrderKind} {account : Account}
    (traded : tradeTarget action target = .ok (kind, account)) :
    (∃ fiat, action = .sell ∧ kind = .sell ∧ account = .fiat fiat ∧ target = .account account) ∨
      ∃ crypto, action = .swap ∧ kind = .swap ∧ account = .crypto crypto ∧
        target = .account account := by
  unfold tradeTarget at traded
  split at traded
  next fiat =>
    cases traded
    exact .inl ⟨fiat, rfl, rfl, rfl, rfl⟩
  next crypto =>
    cases traded
    exact .inr ⟨crypto, rfl, rfl, rfl, rfl⟩
  next => cases traded

theorem order_trades {kind : OrderKind} {account : Account} {proceeds : Proceeds}
    (traded : tradeTarget action target = .ok (kind, account))
    (found : ({ source, target := account, kind, custodian : Trade }).proceeds = .ok proceeds)
    (amount : Amount) (hash : Option String) :
    (({ source, target := account, kind, custodian : Trade }).order proceeds amount hash).Trades
      source target action amount := by
  refine ⟨rfl, rfl, ?_⟩
  obtain ⟨fiat, rfl, rfl, rfl, rfl⟩ | ⟨crypto, rfl, rfl, rfl, rfl⟩ := tradeTarget_eq_ok traded
  · cases found
    exact .inl ⟨rfl, rfl, fiat, rfl, rfl⟩
  · unfold Trade.proceeds at found
    simp only at found
    split at found
    next => cases found
    next =>
      cases found
      exact .inr ⟨rfl, rfl, crypto, rfl, rfl⟩

theorem run_create_trade {p : Processor} (trades : action = .sell ∨ action = .swap)
    (created : (create asset custodian source target action).run oracle s = (.ok p, t)) :
    ∃ kind account, tradeTarget action target = .ok (kind, account) ∧
      ((source.isCustodial = true ∧
          p.engine = .trade { source, target := account, kind, custodian }) ∨
        (source.isCustodial = false ∧ ∃ address deposit u v,
          (custodian.depositAddress source.currency).run oracle s = (.ok address, u) ∧
          (asset.engine source (.address (.of source.currency address))).run oracle u =
            (.ok deposit, v) ∧
          p.engine = .fundedTrade { source, target := account, kind, custodian } deposit)) := by
  obtain ⟨-, engine, last, picked, rfl, -⟩ := run_create_eq_ok.1 created
  have chosen : (tradeEngine asset custodian source action target).run oracle s =
      (.ok engine, last) := by
    rcases trades with rfl | rfl <;> exact picked
  obtain ⟨halt, -, failed, -⟩ | ⟨⟨kind, account⟩, traded, chosen⟩ := run_liftM_bind_cases chosen
  · cases failed
  refine ⟨kind, account, traded, ?_⟩
  cases custody : source.isCustodial with
  | true =>
    simp only [custody, if_true] at chosen
    cases chosen
    exact .inl ⟨rfl, rfl⟩
  | false =>
    simp only [custody, Bool.false_eq_true, if_false, run_bind_eq_ok, run_pure, Prod.mk.injEq,
      Except.ok.injEq] at chosen
    obtain ⟨address, u, found, deposit, v, directed, rfl, -⟩ := chosen
    exact .inr ⟨rfl, address, deposit, u, v, found, directed, rfl⟩

def bitcoins : Asset :=
  { currency := .btc, enabled := true, kind := .onChain (.external "chain" .btc) none
    parties := { records := .external, custodian := .external, signer := .external
                 fees := .external, reporter := .external } }

def bitcoinAccount (custody : Custody) : CryptoAccount :=
  { id := 1, label := "mine", currency := .btc, custody, permissions := .nonCustodial
    backend := .addressOnly "bc1qmine" }

def dollars : Account :=
  .fiat { id := 2, label := "US Dollar", code := "USD", custodian := .external }

def oneBitcoin : Amount := { currency := .btc, value := .ofUInt64 1 }

-- Everybody does what they are asked for, and the custodian answers this to an order.
def accepting (order : Answer String) : Oracle
  | _, .depositAddress _ => .ok "bc1qdep"
  | _, .feeSchedule currency =>
    .ok { currency, regular := .ofUInt64 1, priority := .ofUInt64 1, limits := none
          gasLimit := none }
  | _, .chainBuild _ transfer =>
    .ok (.coins { currency := .btc, inputs := [], fee := 0
                  outputs := [{ address := transfer.destination, value := 100000000 }] })
  | _, .sign tx => .ok { currency := tx.currency, hash := "signed", encoded := "signed" }
  | _, .chainSubmit _ signed =>
    .ok { accepted := true, transaction := { signed with hash := "deposit" }, resultCode := none }
  | _, .placeOrder _ => order
  | _, c => c.refused

def bitcoinDeposit : Engine :=
  .onChain { source := bitcoinAccount .nonCustodial, target := .address (.of .btc "bc1qdep")
             payment := bitcoins.payment (.external "chain" .btc), fees := .external
             reporter := .external, preference := none }

def bitcoinSale : Processor :=
  { id := 0, source := bitcoinAccount .nonCustodial, target := .account dollars, action := .sell
    engine := .fundedTrade { source := bitcoinAccount .nonCustodial, target := dollars
                             kind := .sell, custodian := .external } bitcoinDeposit }

def saleCreated : Session :=
  { Session.empty with calls := [.depositAddress .btc], nextId := 1, counted := [.created .sell] }

theorem create_bitcoinSale (answer : Answer String) :
    (create bitcoins .external (bitcoinAccount .nonCustodial) (.account dollars) .sell).run
      (accepting answer) .empty = (.ok bitcoinSale, saleCreated) := rfl

-- The deposit goes through, whatever becomes of the order.
theorem bitcoinSale_accepted (answer : Answer String) :
    bitcoinSale.engine.Accepted (accepting answer) saleCreated.calls
      ((bitcoinSale.execute oneBitcoin .regular).run (accepting answer) saleCreated).2.calls
      "deposit" := by
  have directed : Engine.Directed (.of .btc "bc1qdep") bitcoinDeposit := .onChain _ rfl
  have paying : (bitcoinDeposit.execute oneBitcoin .regular).run (accepting answer) saleCreated =
      (.ok "deposit", _) := rfl
  let order : Order :=
    { kind := .sell, source := .btc, proceeds := .fiat "USD", amount := oneBitcoin.value
      depositHash := some "deposit" }
  have instructs : ∀ c ∈ [Call.placeOrder order], c.instructs = true := by simp [Call.instructs]
  refine (directed.accepted_iff (List.append_nil _).symm (by simp) paying instructs ?_).2 rfl
  cases answer <;> rfl

theorem funded_order {trade : Trade} {deposit : Engine} {address : Address} {p : Processor}
    {amount : Amount} {level : FeeLevel} {result : Checked String}
    (directed : deposit.Directed address) (engine : p.engine = .fundedTrade trade deposit)
    (executed : (p.execute amount level).run oracle s = (result, t)) :
    ∃ calls, t.calls = s.calls ++ calls ∧ ∀ c ∈ calls, trade.custodian.Ordered c →
      amount.currency = p.source.currency ∧ amount.isPositive = true ∧
        ∃ looked ready w proceeds hash, ready.calls = s.calls ++ looked ∧ (∀ d ∈ looked, d.Reads) ∧
          trade.proceeds = .ok proceeds ∧
          deposit.Settled address amount level oracle ready w hash ∧
          t.calls = w.calls ++ [c] ∧
          c = trade.custodian.orderCall (trade.order proceeds amount (some hash)) := by
  have checks : p.engine.validate.Asks Call.Reads := by
    rw [engine]
    exact .bind (asks_liftM _) fun _ => directed.validate_asks
  obtain ⟨looked, ready, before, reads, ended⟩ := run_execute_accepted checks executed
  have lookedOnly (c : Call) (member : c ∈ looked) : ¬ trade.custodian.Ordered c :=
    Custodian.not_ordered_of_reads (reads c member)
  obtain ⟨rfl, -⟩ | ⟨currency, positive, executed⟩ := ended
  · exact ⟨looked, before, fun c member ordered => absurd ordered (lookedOnly c member)⟩
  rw [engine] at executed
  have unordered {w : Session} {paid : Checked String}
      (paying : (deposit.execute amount level).run oracle ready = (paid, w)) :
      ∃ moved, w.calls = s.calls ++ moved ∧ ∀ c ∈ moved, ¬ trade.custodian.Ordered c := by
    obtain ⟨moved, during, uninstructed⟩ := directed.uninstructed paying
    refine ⟨looked ++ moved, by rw [during, before, List.append_assoc], ?_⟩
    intro c member
    rcases List.mem_append.1 member with member | member
    · exact lookedOnly c member
    · exact Custodian.not_ordered_of_uninstructed (uninstructed c member)
  cases Trade.course executed with
  | unknown halt =>
    exact ⟨looked, before, fun c member ordered => absurd ordered (lookedOnly c member)⟩
  | unfunded halt paying =>
    obtain ⟨moved, log, none⟩ := unordered paying
    exact ⟨moved, log, fun c member ordered => absurd ordered (none c member)⟩
  | ordered proceeds hash w known paying ordering =>
    obtain ⟨moved, log, none⟩ := unordered paying
    obtain ⟨_, last, rfl⟩ := (trade.custodian.placeOrder_traces _).of_run ordering
    refine ⟨moved ++ [_], by rw [last, log, List.append_assoc], ?_⟩
    intro c member ordered
    rcases List.mem_append.1 member with member | member
    · exact absurd ordered (none c member)
    · obtain rfl := List.mem_singleton.1 member
      exact ⟨currency, positive, looked, ready, w, proceeds, hash, before, reads, known,
        directed.settled paying, last, rfl⟩

theorem created_order {creation : Oracle} {u v : Session} {p : Processor} {amount : Amount}
    {level : FeeLevel} {result : Checked String} (trades : action = .sell ∨ action = .swap)
    (own : source.isCustodial = false)
    (created : (create asset custodian source target action).run creation s = (.ok p, t))
    (executed : (p.execute amount level).run oracle u = (result, v)) :
    ∃ address deposit x y calls,
      (custodian.depositAddress source.currency).run creation s = (.ok address, x) ∧
      (asset.engine source (.address (.of source.currency address))).run creation x =
        (.ok deposit, y) ∧
      v.calls = u.calls ++ calls ∧
      ∀ c ∈ calls, custodian.Ordered c →
        ∃ order : Order, ∃ looked ready w hash, order.Trades source target action amount ∧
          c = custodian.orderCall order ∧
          amount.currency = source.currency ∧ amount.isPositive = true ∧
          ready.calls = u.calls ++ looked ∧ (∀ d ∈ looked, d.Reads) ∧
          deposit.Settled (.of source.currency address) amount level oracle ready w hash ∧
          v.calls = w.calls ++ [c] := by
  obtain ⟨kind, account, traded, made⟩ := run_create_trade trades created
  obtain ⟨custodial, -⟩ | ⟨-, address, deposit, x, y, found, chosen, engine⟩ := made
  · rw [own] at custodial
    cases custodial
  obtain ⟨-, _, _, -, rfl, -⟩ := run_create_eq_ok.1 created
  obtain ⟨calls, log, last⟩ := funded_order (Engine.directed_of_engine chosen) engine executed
  refine ⟨address, deposit, x, y, calls, found, chosen, log, ?_⟩
  intro c member ordered
  obtain ⟨currency, positive, looked, ready, w, proceeds, hash, before, reads, known, settled,
    after, sent⟩ := last c member ordered
  exact ⟨_, looked, ready, w, hash, order_trades traded known amount (some hash), sent, currency,
    positive, before, reads, settled, after⟩

/-- Where a trade fails although a network has accepted its deposit, it was the order that failed:
the custodian's answer is passed on as it is, and the order had named the deposit. -/
theorem deposit_named (asset : Asset) (custodian : Custodian) (source : CryptoAccount)
    (target : Target) (action : Action) (creation : Oracle) (s t : Session) (p : Processor)
    (trades : action = .sell ∨ action = .swap) (own : source.isCustodial = false)
    (created : (create asset custodian source target action).run creation s = (.ok p, t))
    (amount : Amount) (level : FeeLevel) (oracle : Oracle) (u v : Session) (halt : Halt)
    (executed : (p.execute amount level).run oracle u = (.error halt, v)) (hash : String)
    (accepted : p.engine.Accepted oracle u.calls v.calls hash) :
    ∃ w, ∃ order : Order, order.Trades source target action amount ∧
      order.depositHash = some hash ∧ v.calls = w.calls ++ [custodian.orderCall order] ∧
      (custodian.placeOrder order).run oracle w = (.error halt, v) := by
  obtain ⟨kind, account, traded, made⟩ := run_create_trade trades created
  obtain ⟨custodial, -⟩ | ⟨-, address, deposit, x, y, found, chosen, engine⟩ := made
  · rw [own] at custodial
    cases custodial
  have directed := Engine.directed_of_engine chosen
  have checks : p.engine.validate.Asks Call.Reads := by
    rw [engine]
    exact .bind (asks_liftM _) fun _ => directed.validate_asks
  rw [engine] at accepted
  change deposit.Accepted oracle u.calls v.calls hash at accepted
  obtain ⟨calls, checked, log, reads, ⟨rfl, -⟩ | ⟨-, -, executed⟩⟩ :=
    run_execute_accepted checks executed
  · exact (directed.not_accepted log reads accepted).elim
  rw [engine] at executed
  cases Trade.course executed with
  | unknown halt => exact (directed.not_accepted log reads accepted).elim
  | unfunded halt paying =>
    have succeeded :=
      (directed.accepted_iff log reads paying (by simp) (List.append_nil _).symm).1 accepted
    cases succeeded
  | ordered proceeds paid w known paying ordering =>
    obtain ⟨_, last, rfl⟩ := (custodian.placeOrder_traces _).of_run ordering
    have instructs (order : Order) : ∀ c ∈ [custodian.orderCall order], c.instructs = true := by
      simp [custodian.orderCall_instructs]
    have succeeded := (directed.accepted_iff log reads paying (instructs _) last).1 accepted
    cases succeeded
    exact ⟨w, _, order_trades traded known amount (some hash), rfl, last, ordering⟩

theorem deposit_named_bitcoinSale :
    (create bitcoins .external (bitcoinAccount .nonCustodial) (.account dollars) .sell).run
        (accepting (.error (.custodial "down"))) .empty = (.ok bitcoinSale, saleCreated) ∧
      ∃ v, (bitcoinSale.execute oneBitcoin .regular).run (accepting (.error (.custodial "down")))
          saleCreated = (.error (.failure (.custodial "down")), v) ∧
        bitcoinSale.engine.Accepted (accepting (.error (.custodial "down"))) saleCreated.calls
          v.calls "deposit" ∧
        ∃ (w : Session) (order : Order), order.depositHash = some "deposit" ∧
          v.calls = w.calls ++ [.placeOrder order] := by
  refine ⟨create_bitcoinSale _, _, rfl, bitcoinSale_accepted _, ?_⟩
  obtain ⟨w, order, -, named, last, -⟩ := deposit_named _ _ _ _ _ _ _ _ _ (.inl rfl) rfl
    (create_bitcoinSale (.error (.custodial "down"))) oneBitcoin .regular
    (accepting (.error (.custodial "down"))) _ _ _ rfl "deposit" (bitcoinSale_accepted _)
  exact ⟨w, order, named, last⟩

theorem deposit_unsaid :
    ∃ v cause,
      (create bitcoins .external (bitcoinAccount .nonCustodial) (.account dollars) .sell).run
          (accepting (.error (.custodial "down"))) .empty = (.ok bitcoinSale, saleCreated) ∧
        (bitcoinSale.execute oneBitcoin .regular).run (accepting (.error (.custodial "down")))
          saleCreated = (.error (.failure cause), v) ∧
        bitcoinSale.engine.Accepted (accepting (.error (.custodial "down"))) saleCreated.calls
          v.calls "deposit" ∧
        ¬ "deposit".toList <:+: cause.message.toList :=
  ⟨_, .custodial "down", create_bitcoinSale _, rfl, bitcoinSale_accepted _, by decide⟩

end Processor

end MultiWallet
