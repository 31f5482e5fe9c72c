import MultiWallet.Proofs.Engine

set_option autoImplicit false

namespace MultiWallet

open Dialogue

structure KeepsMemo (signer : Signer) (memo : Option String) (result : Checked String)
    (calls : List Call) : Prop where
  every : ∀ c ∈ calls, signer.Asked c → ∃ tx, c = signer.request tx ∧ tx.memo? = memo
  handed : ∀ hash, result = .ok hash → ∃ tx, signer.request tx ∈ calls ∧ tx.memo? = memo

namespace KeepsMemo

variable {signer : Signer} {memo : Option String} {result : Checked String} {α : Type}

theorem of_error {halt : Halt} {calls : List Call} (reads : ∀ c ∈ calls, c.Reads) :
    KeepsMemo signer memo (.error halt) calls where
  every c member asked := absurd asked (Signer.not_asked_of_reads (reads c member))
  handed _ ok := by cases ok

theorem of_request {tx : UnsignedTransaction} {later : List Call} (same : tx.memo? = memo)
    (silent : ∀ c ∈ later, ¬ signer.Asked c) :
    KeepsMemo signer memo result (signer.request tx :: later) where
  every c member asked := by
    rcases List.mem_cons.1 member with rfl | member
    · exact ⟨tx, rfl, same⟩
    · exact absurd asked (silent c member)
  handed _ _ := ⟨tx, List.mem_cons_self, same⟩

theorem append {earlier later : List Call} (reads : ∀ c ∈ earlier, c.Reads)
    (keeps : KeepsMemo signer memo result later) :
    KeepsMemo signer memo result (earlier ++ later) where
  every c member asked := by
    rcases List.mem_append.1 member with member | member
    · exact absurd asked (Signer.not_asked_of_reads (reads c member))
    · exact keeps.every c member asked
  handed hash ok := by
    obtain ⟨tx, member, same⟩ := keeps.handed hash ok
    exact ⟨tx, List.mem_append_right _ member, same⟩

theorem bind {d : Dialogue α} {f : α → Dialogue String} (first : d.Asks Call.Reads)
    (second : ∀ a, (f a).Traces (KeepsMemo signer memo)) :
    (d >>= f).Traces (KeepsMemo signer memo) :=
  Traces.bind first second (fun _ _ reads => of_error reads) fun _ _ _ _ reads keeps =>
    append reads keeps

end KeepsMemo

theorem Stellar.memo_of_build {x : Stellar} {transfer : Transfer} {oracle : Oracle} {s t : Session}
    {tx : LedgerTransaction} (built : (x.build transfer).run oracle s = (.ok tx, t)) :
    tx.memo = transfer.memo := by
  unfold build at built
  split at built
  next => cases built
  next =>
    simp only [run_bind_eq_ok, run_pure, Prod.mk.injEq, Except.ok.injEq] at built
    obtain ⟨_, _, _, _, _, _, _, _, _, rfl, _⟩ := built
    rfl

namespace Payment

variable {p : Payment} {server : StellarServer} {network : Network}

theorem build_traces_memo (ledger : p.chain = .stellar server network) (amount : Amount)
    (sender : Sender) (destination : String) (memo : Option String) (schedule : FeeSchedule)
    (type : FeeType) :
    (p.build amount sender destination memo schedule type).Traces fun result calls =>
      (∀ c ∈ calls, c.Reads) ∧ ∀ tx, result = .ok tx → tx.memo? = memo := by
  have chain : (p.chain.build { source := sender.address, destination, amount,
                                rate := schedule.rate type, memo }).Asks Call.Reads := by
    rw [ledger]
    exact .map (Stellar.build_asks _ _)
  refine Asks.yielding (.bind chain fun tx => asks_pure _) ?_
  intro oracle s tx t built
  rw [build, ledger] at built
  simp only [ChainClient.build, run_bind_eq_ok, run_map_eq_ok, run_pure, Prod.mk.injEq,
    Except.ok.injEq] at built
  obtain ⟨_, _, ⟨ledgerTx, built, rfl⟩, rfl, -⟩ := built
  exact Stellar.memo_of_build built

theorem execute_keepsMemo (ledger : p.chain = .stellar server network) (amount : Amount)
    (sender : Sender) (destination : String) (memo : Option String) (schedule : FeeSchedule)
    (type : FeeType) :
    (p.execute amount sender destination memo schedule type).Traces (KeepsMemo p.signer memo) := by
  refine Traces.bind (build_traces_memo ledger _ _ _ memo _ _) (p.sign_once amount) ?_ ?_
  · rintro halt calls ⟨reads, -⟩
    exact .of_error reads
  · rintro tx result earlier _ ⟨reads, kept⟩ ⟨later, rfl, silent⟩
    exact .append reads (.of_request (kept tx rfl) silent)

theorem scheduled_keepsMemo (ledger : p.chain = .stellar server network) (source : CryptoAccount)
    (fees : FeeSource) (currency : Currency) (amount : Amount) (destination : String)
    (memo : Option String) (type : FeeType) :
    (do
      let sender ← source.sender
      let schedule ← fees.schedule currency
      p.execute amount sender destination memo schedule type).Traces (KeepsMemo p.signer memo) := by
  refine KeepsMemo.bind source.sender_asks fun sender => ?_
  refine KeepsMemo.bind (fees.schedule_asks _) fun schedule => ?_
  exact execute_keepsMemo ledger _ _ _ _ _ _

end Payment

namespace Address

def withoutMemo (a : Address) : Address := { a with memo := none }

@[simp] theorem withoutMemo_text (a : Address) : a.withoutMemo.text = a.text := rfl

@[simp] theorem withoutMemo_currency (a : Address) : a.withoutMemo.currency = a.currency := rfl

end Address

-- Whether an address may be sent to does not depend on its memo.
theorem chainAddress_withoutMemo (source : CryptoAccount) (a : Address) :
    chainAddress source (.address a) = .ok a ∧
      chainAddress source (.address a.withoutMemo) = .ok a.withoutMemo ∨
    ∃ cause, chainAddress source (.address a) = fail cause ∧
      chainAddress source (.address a.withoutMemo) = fail cause := by
  by_cases blank : (Text.trim a.text.toList).isEmpty = true
  · right
    exact ⟨.contractViolation "target address is empty", by simp [chainAddress, blank],
      by simp [chainAddress, blank]⟩
  · by_cases same : a.currency = source.currency
    · left
      constructor <;> simp [chainAddress, blank, same]
    · right
      exact ⟨.contractViolation
          ("target address is " ++ a.currency.ticker ++ " but source is " ++ source.currency.ticker),
        by simp [chainAddress, blank, same], by simp [chainAddress, blank, same]⟩

namespace OnChainTransfer

theorem execute_keepsMemo {t : OnChainTransfer} {address : Address} {server : StellarServer}
    {network : Network} (target : t.target = .address address)
    (ledger : t.payment.chain = .stellar server network) (amount : Amount) (level : FeeLevel) :
    (t.execute amount level).Traces (KeepsMemo t.payment.signer address.memo) := by
  refine Traces.bind_liftM (fun halt => .of_error (by simp)) ?_
  intro found ok
  rw [target] at ok
  obtain ⟨rfl, -⟩ := chainAddress_eq_ok.1 ok
  exact Payment.scheduled_keepsMemo ledger _ _ _ _ _ _ _

end OnChainTransfer

namespace StellarTransfer

theorem execute_keepsMemo {t : StellarTransfer} {address : Address} {server : StellarServer}
    {network : Network} (target : t.target = .address address)
    (ledger : t.payment.chain = .stellar server network) (amount : Amount) (level : FeeLevel) :
    (t.execute amount level).Traces (KeepsMemo t.payment.signer address.memo) := by
  refine Traces.bind_liftM (fun halt => .of_error (by simp)) ?_
  intro found ok
  obtain ⟨_, checked, ok⟩ := Checked.bind_eq_ok.1 ok
  rw [target] at checked
  obtain ⟨rfl, -⟩ := chainAddress_eq_ok.1 checked
  split at ok
  next => cases ok
  next =>
    split at ok
    next => cases ok
    next =>
      cases ok
      exact Payment.scheduled_keepsMemo ledger _ _ _ _ _ _ _

end StellarTransfer

theorem Asset.engine_keepsMemo {a : Asset} {source : CryptoAccount} {address : Address}
    {server : StellarServer} {network : Network} {engine : Engine} {oracle : Oracle}
    {s t : Session} (ledger : a.chain? = some (.stellar server network))
    (chosen : (a.engine source (.address address)).run oracle s = (.ok engine, t))
    (amount : Amount) (level : FeeLevel) :
    engine.validate.Asks Call.Reads ∧
      (engine.execute amount level).Traces (KeepsMemo a.parties.signer address.memo) := by
  unfold chain? at ledger
  unfold Asset.engine at chosen
  split at ledger
  next chain preference kind =>
    cases ledger
    rw [kind] at chosen
    cases chosen
    exact ⟨.bind (asks_liftM _) fun _ => asks_pure _,
      OnChainTransfer.execute_keepsMemo rfl rfl amount level⟩
  next chain preference kind =>
    cases ledger
    rw [kind] at chosen
    cases chosen
    exact ⟨.bind (asks_liftM _) fun _ => asks_pure _,
      StellarTransfer.execute_keepsMemo rfl rfl amount level⟩
  next => cases ledger
  next => cases ledger

/-- Transactions of the chain have room for a memo, or others than this program build them. -/
def ChainClient.takesMemo : ChainClient → Bool
  | .stellar _ _ | .external _ _ => true
  | .indexer _ _ | .evm _ _ _ => false

theorem MeteredPayment.execute_withoutMemo {m : MeteredPayment}
    (memoless : m.payment.chain.takesMemo = false) (amount : Amount) (sender : Sender)
    (destination : String) (memo : Option String) :
    m.execute amount sender destination memo = m.execute amount sender destination none := by
  obtain ⟨⟨chain, signer⟩, fees, type, reporter⟩ := m
  cases chain with
  | indexer currency base => rfl
  | evm currency url gasLimit => rfl
  | stellar server network => cases memoless
  | external name currency => cases memoless

def Engine.Same (a b : Engine) : Prop :=
  a.validate = b.validate ∧ ∀ amount level, a.execute amount level = b.execute amount level

theorem OnChainTransfer.withoutMemo (source : CryptoAccount) (address : Address)
    {payment : Payment} (memoless : payment.chain.takesMemo = false) (fees : FeeSource)
    (reporter : Reporter) (preference : Option Int) :
    Engine.Same
      (.onChain { source, target := .address address, payment, fees, reporter, preference })
      (.onChain { source, target := .address address.withoutMemo, payment, fees, reporter,
                  preference }) := by
  simp only [Engine.Same, Engine.validate, Engine.execute, OnChainTransfer.execute]
  rcases chainAddress_withoutMemo source address with ⟨kept, plain⟩ | ⟨cause, kept, plain⟩
  · rw [kept, plain]
    refine ⟨rfl, ?_⟩
    intro amount level
    change (source.sender >>= fun sender => MeteredPayment.execute _ amount sender _ address.memo) =
      source.sender >>= fun sender => MeteredPayment.execute _ amount sender _ none
    congr 1
    funext sender
    exact MeteredPayment.execute_withoutMemo memoless _ _ _ _
  · rw [kept, plain]
    exact ⟨rfl, fun _ _ => rfl⟩

theorem Withdrawal.withoutMemo (source : CryptoAccount) (address : Address)
    (custodian : Custodian) :
    Engine.Same (.withdrawal { source, target := .address address, custodian })
      (.withdrawal { source, target := .address address.withoutMemo, custodian }) := by
  simp only [Engine.Same, Engine.validate, Engine.execute, Withdrawal.validate,
    Withdrawal.execute]
  rcases chainAddress_withoutMemo source address with ⟨kept, plain⟩ | ⟨cause, kept, plain⟩ <;>
    rw [kept, plain] <;>
    exact ⟨rfl, fun _ _ => rfl⟩

namespace Processor

variable {oracle : Oracle} {s t : Session} {asset : Asset} {custodian : Custodian}
  {source : CryptoAccount} {address : Address}

theorem run_create_send_eq_ok {p : Processor} :
    (create asset custodian source (.address address) .send).run oracle s = (.ok p, t) ↔
      source.permits .send = true ∧
        ∃ engine u, (sendEngine asset custodian source (.address address)).run oracle s =
            (.ok engine, u) ∧
          p = { id := u.nextId, source, target := .address address, action := .send, engine } ∧
          t = { u with counted := u.counted ++ [.created .send], nextId := u.nextId + 1 } :=
  run_create_eq_ok

theorem sendEngine_custodial (custodial : source.isCustodial = true) (address : Address) :
    sendEngine asset custodian source (.address address) =
      pure (.withdrawal { source, target := .address address, custodian }) := by
  simp [sendEngine, sendAddress, custodial]

theorem sendEngine_nonCustodial (own : source.isCustodial = false) (address : Address) :
    sendEngine asset custodian source (.address address) =
      asset.engine source (.address address) := by
  simp [sendEngine, sendAddress, own]

theorem sendEngine_withoutMemo {engine : Engine}
    (memoless : source.isCustodial = true ∨
      ∃ chain preference, asset.kind = .onChain chain preference ∧ chain.takesMemo = false)
    (chosen : (sendEngine asset custodian source (.address address)).run oracle s =
      (.ok engine, t)) :
    ∃ plain, (sendEngine asset custodian source (.address address.withoutMemo)).run oracle s =
        (.ok plain, t) ∧ engine.Same plain := by
  cases custody : source.isCustodial with
  | true =>
    rw [sendEngine_custodial custody] at chosen ⊢
    cases chosen
    exact ⟨_, rfl, Withdrawal.withoutMemo _ _ _⟩
  | false =>
    rw [sendEngine_nonCustodial custody, Asset.engine] at chosen ⊢
    rcases memoless with custodial | ⟨chain, preference, kind, memoless⟩
    · rw [custody] at custodial
      cases custodial
    · rw [kind] at chosen ⊢
      cases chosen
      exact ⟨_, rfl, OnChainTransfer.withoutMemo _ _ memoless _ _ _⟩

theorem execute_keepsMemo {p : Processor} {amount : Amount} {level : FeeLevel} {signer : Signer}
    {memo : Option String} (checks : p.engine.validate.Asks Call.Reads)
    (keeps : (p.engine.execute amount level).Traces (KeepsMemo signer memo)) :
    (p.execute amount level).Traces (KeepsMemo signer memo) := by
  refine KeepsMemo.bind (asks_liftM _) fun _ => ?_
  refine KeepsMemo.bind (asks_liftM _) fun _ => ?_
  exact KeepsMemo.bind checks fun _ => keeps

/-- On the Stellar ledger the memo of the address reaches the signer with every transaction; where
there is no place for it, the processor does what it does for the address alone. -/
theorem execute_memo (asset : Asset) (custodian : Custodian) (source : CryptoAccount)
    (address : Address) (memo : String) (oracle : Oracle) (s t : Session) (p : Processor)
    (carried : address.memo = some memo)
    (created : (create asset custodian source (.address address) .send).run oracle s = (.ok p, t)) :
    (∀ server network, source.isCustodial = false →
      asset.chain? = some (.stellar server network) →
      ∀ (amount : Amount) (level : FeeLevel) (later : Oracle) (u v : Session)
        (result : Checked String), (p.execute amount level).run later u = (result, v) →
        ∃ calls, v.calls = u.calls ++ calls ∧
          (∀ c ∈ calls, asset.parties.signer.Asked c →
            ∃ tx, c = asset.parties.signer.request tx ∧ tx.memo? = some memo) ∧
          (∀ hash, result = .ok hash →
            ∃ tx, asset.parties.signer.request tx ∈ calls ∧ tx.memo? = some memo)) ∧
    ((source.isCustodial = true ∨
        ∃ chain preference, asset.kind = .onChain chain preference ∧ chain.takesMemo = false) →
      ∃ plain, (create asset custodian source (.address address.withoutMemo) .send).run oracle s =
          (.ok plain, t) ∧
        ∀ amount level, p.execute amount level = plain.execute amount level) := by
  obtain ⟨permitted, engine, u, chosen, rfl, rfl⟩ := run_create_send_eq_ok.1 created
  constructor
  · intro server network own ledger amount level later v w result executed
    rw [sendEngine_nonCustodial own] at chosen
    obtain ⟨checks, keeps⟩ := Asset.engine_keepsMemo ledger chosen amount level
    obtain ⟨calls, log, kept⟩ := Traces.of_run (execute_keepsMemo checks keeps) executed
    rw [carried] at kept
    exact ⟨calls, log, kept.every, kept.handed⟩
  · intro memoless
    obtain ⟨plain, same, validate, execute⟩ := sendEngine_withoutMemo memoless chosen
    refine ⟨_, run_create_send_eq_ok.2 ⟨permitted, plain, u, same, rfl, rfl⟩, ?_⟩
    intro amount level
    simp only [Processor.execute, validate, execute]
    rfl

def lumens : Asset :=
  { currency := .xlm, enabled := true, kind := .stellar (.stellar (.external "ledger") .test) none
    parties := { records := .external, custodian := .external, signer := .external
                 fees := .external, reporter := .external } }

def lumenAccount (custody : Custody) : CryptoAccount :=
  { id := 1, label := "mine", currency := .xlm, custody, permissions := .nonCustodial
    backend := .addressOnly "GMINE" }

def sharedAddress : Address := { currency := .xlm, text := "GSHARED", memo := some "12345" }

def oneLumen : Amount := { currency := .xlm, value := .powerOfTen 0 }

def willing : Oracle
  | _, .feeSchedule currency =>
    .ok { currency, regular := oneLumen.value, priority := oneLumen.value, limits := none
          gasLimit := none }
  | _, .stellarAccount _ id => .ok { id, sequence := "7", subentries := 0, balances := [] }
  | _, .sign tx => .ok { currency := tx.currency, hash := "hash", encoded := "signed" }
  | _, .stellarSubmit _ _ => .ok { successful := true, hash := none, resultCode := none }
  | _, .withdraw _ _ _ => .ok "number"
  | _, c => c.refused

theorem execute_memo_sharedAddress :
    sharedAddress.memo = some "12345" ∧
      ∃ p t v, (create lumens .external (lumenAccount .nonCustodial) (.address sharedAddress)
          .send).run willing .empty = (.ok p, t) ∧
        (p.execute oneLumen .none).run willing t = (.ok "hash", v) ∧
        ∃ calls tx, v.calls = t.calls ++ calls ∧ .sign tx ∈ calls ∧ tx.memo? = some "12345" := by
  have created : (create lumens .external (lumenAccount .nonCustodial) (.address sharedAddress)
      .send).run willing .empty = (.ok _, _) :=
    run_create_send_eq_ok.2 ⟨rfl, _, _, rfl, rfl, rfl⟩
  refine ⟨rfl, _, _, _, created, rfl, ?_⟩
  obtain ⟨carries, -⟩ := execute_memo _ _ _ _ _ _ _ _ _ rfl created
  obtain ⟨calls, log, -, handed⟩ := carries _ _ rfl rfl oneLumen .none willing _ _ _ rfl
  obtain ⟨tx, member, memo⟩ := handed _ rfl
  exact ⟨calls, tx, log, member, memo⟩

theorem memo_withdrawn :
    sharedAddress.memo = some "12345" ∧
      ∃ p t v, (create lumens .external (lumenAccount .custodial) (.address sharedAddress)
          .send).run willing .empty = (.ok p, t) ∧
        (p.execute oneLumen .none).run willing t = (.ok "number", v) ∧
        v.calls = t.calls ++ [.withdraw .xlm "GSHARED" oneLumen.value] := by
  exact ⟨rfl, _, _, _, run_create_send_eq_ok.2 ⟨rfl, _, _, rfl, rfl, rfl⟩, rfl, rfl⟩

end Processor

end MultiWallet
