import MultiWallet.Proofs.Chain.Overflow
import MultiWallet.Proofs.Payment

set_option autoImplicit false

namespace MultiWallet

open Dialogue

variable {oracle : Oracle} {s : Session}

theorem Payment.settle_bounded (amount : Amount) (receipt : Receipt) :
    (settle amount receipt).Bounded := by
  intro oracle s
  obtain ⟨t, -, settled⟩ := run_settle amount receipt oracle s
  rw [settled]
  dsimp only
  split
  · exact Checked.bounded_ok _
  · exact Checked.bounded_fail _

namespace Evm

variable {x : Evm} {transfer : Transfer}

def assemble (x : Evm) (transfer : Transfer) (nonce : ℕ) : Checked EvmTransaction := do
  let value ← transfer.amount.minor
  let nonce ← orOverflow (if nonce < 2 ^ 64 then some (UInt64.ofNat nonce) else none)
  let price ← gasPrice transfer.rate
  return {
    currency := x.currency
    chainId := x.chainId
    sender := transfer.source
    recipient := transfer.destination
    valueWei := toString value
    nonce
    gasLimit := x.gasLimit
    gasPriceWei := price.toText }

theorem build_eq {destination : String} (own : transfer.amount.currency = x.currency)
    (reached : x.address transfer.destination = .ok destination) :
    x.build transfer = (do
      let nonce ← x.sent transfer.source
      ofChecked (x.assemble transfer nonce)) := by
  rw [build, if_neg (not_not.2 own), sent, bind_assoc, reached]
  simp only [liftM_ok_bind, assemble, ← ofChecked_bind]
  rfl

theorem sent_bounded (x : Evm) (account : String) : (x.sent account).Bounded :=
  (bounded_ofChecked (x.address_bounded account)).bind fun _ => JsonRpc.call_bounded _ _ _ _ _

structure Ready (x : Evm) (transfer : Transfer) (oracle : Oracle) (s : Session) (nonce : ℕ) :
    Prop where
  own : transfer.amount.currency = x.currency
  reached : ∃ destination, x.address transfer.destination = .ok destination
  counted : ((x.sent transfer.source).run oracle s).1 = .ok nonce
  whole : ∃ value, transfer.amount.minor = .ok value

theorem assemble_overflow_iff {nonce : ℕ} :
    x.assemble transfer nonce = .error .overflow ↔
      (∃ value, transfer.amount.minor = .ok value) ∧
        (2 ^ 64 ≤ nonce ∨ 2 ^ 96 ≤ |transfer.rate.toRat| * 10 ^ 9) := by
  rw [assemble, transfer.amount.bounded_minor.bind_overflow_iff, ← exists_and_right]
  refine exists_congr fun value => and_congr_right fun _ => ?_
  rcases Nat.lt_or_ge nonce (2 ^ 64) with word | large
  · rw [if_pos word, or_iff_right word.not_ge]
    obtain ⟨large, priced⟩ | ⟨inRange, price, priced, -⟩ := gasPrice_cases transfer.rate
    · rw [priced]
      exact iff_of_true rfl large
    · rw [priced]
      exact iff_of_false (Checked.bounded_ok _) inRange.not_ge
  · rw [if_neg large.not_gt]
    exact iff_of_true rfl (.inl large)

theorem build_overflow_iff :
    ((x.build transfer).run oracle s).1 = .error .overflow ↔
      ∃ nonce, x.Ready transfer oracle s nonce ∧
        (2 ^ 64 ≤ nonce ∨ 2 ^ 96 ≤ |transfer.rate.toRat| * 10 ^ 9) := by
  by_cases own : transfer.amount.currency = x.currency
  · cases reached : x.address transfer.destination with
    | error halt =>
      have unreached : ((x.build transfer).run oracle s).1 ≠ .error .overflow := by
        rw [build, if_neg (not_not.2 own), reached]
        refine (bounded_ofChecked (x.address_bounded _)).bind (fun source => ?_) oracle s
        exact bounded_ofChecked (reached ▸ x.address_bounded _).of_error
      refine iff_of_false unreached ?_
      rintro ⟨nonce, ready, -⟩
      obtain ⟨destination, found⟩ := ready.reached
      cases reached.symm.trans found
    | ok destination =>
      rw [build_eq own reached, (x.sent_bounded _).bind_overflow_iff]
      constructor
      · rintro ⟨nonce, t, counted, overflows⟩
        obtain ⟨whole, large⟩ := assemble_overflow_iff.1 overflows
        exact ⟨nonce, ⟨own, ⟨destination, reached⟩, by rw [counted], whole⟩, large⟩
      · rintro ⟨nonce, ready, large⟩
        exact ⟨nonce, _, Prod.ext ready.counted rfl, assemble_overflow_iff.2 ⟨ready.whole, large⟩⟩
  · rw [build, if_pos own]
    refine iff_of_false (by simp) ?_
    rintro ⟨nonce, ready, -⟩
    exact own ready.own

theorem submit_bounded (x : Evm) (signed : SignedTransaction) : (x.submit signed).Bounded := by
  unfold submit
  split
  · exact bounded_ofChecked (Checked.bounded_fail _)
  · exact (JsonRpc.call_bounded _ _ _ _ _).bind fun hash => bounded_ofChecked (Checked.bounded_ok _)

end Evm

theorem EvmTransaction.fee_overflow_iff {tx : EvmTransaction} {price : Decimal}
    (text : tx.gasPriceWei = price.toText) (whole : price.scale = 0) :
    tx.fee = .error .overflow ↔ 2 ^ 96 ≤ price.coefficient * tx.gasLimit.toNat := by
  obtain ⟨read, ok, scale, value⟩ := Decimal.ofString_toText_whole whole
  have coefficient : read.coefficient = price.coefficient := by
    have same := congrArg abs value
    rw [Decimal.abs_toRat, Decimal.abs_toRat, scale, whole] at same
    simpa using same
  have refused : read.mul? (.ofUInt64 tx.gasLimit) = none ↔
      2 ^ 96 ≤ read.coefficient * tx.gasLimit.toNat := Decimal.mul?_whole_eq_none_iff scale rfl
  rw [fee, text, ok, ← coefficient, ← refused]
  exact orOverflow_bind_overflow_iff fun total => Amount.bounded_ofMinorText _ _

namespace Evm

variable {x : Evm} {signer : Signer} {amount : Amount} {sender : Sender} {destination : String}
  {memo : Option String} {schedule : FeeSchedule} {type : FeeType}

theorem payment_build_overflow_iff :
    (((x.payment signer).build amount sender destination memo schedule type).run oracle s).1 =
        .error .overflow ↔
      ((x.build { source := sender.address, destination, amount,
                  rate := schedule.rate type, memo }).run oracle s).1 = .error .overflow := by
  simp only [payment, Payment.build, ChainClient.build, bind_pure_comp, run_map]
  rcases (x.build _).run oracle s with ⟨halt | e, t⟩ <;> simp [Except.map]

theorem payment_fee_overflow_iff :
    (((x.payment signer).fee amount sender destination schedule type).run oracle s).1 =
        .error .overflow ↔
      ∃ nonce, x.Ready { source := sender.address, destination, amount,
                         rate := schedule.rate type, memo := none } oracle s nonce ∧
        (2 ^ 64 ≤ nonce ∨ Overflows (schedule.rate type) (schedule.gasLimit.getD x.gasLimit)) := by
  rw [Payment.fee, run_bind_overflow_iff, payment_build_overflow_iff, build_overflow_iff]
  constructor
  · rintro (⟨nonce, ready, large | large⟩ | ⟨tx, t, built, overflows⟩)
    · exact ⟨nonce, ready, .inl large⟩
    · exact ⟨nonce, ready, .inr (.inl large)⟩
    · obtain ⟨e, plain, rfl⟩ := run_payment_build_eq_ok.1 built
      obtain ⟨own, _, nonce, value, price, reached, counted, -, whole, priced, rfl⟩ :=
        run_build_eq_ok.1 plain
      refine ⟨nonce, ⟨own, ⟨_, reached⟩, by rw [counted], ⟨_, whole⟩⟩, .inr ?_⟩
      obtain ⟨-, none⟩ | ⟨-, _, again, scale, coefficient⟩ := gasPrice_cases (schedule.rate type)
      · cases priced.symm.trans none
      · cases priced.symm.trans again
        rw [Overflows, ← coefficient]
        exact .inr ((EvmTransaction.fee_overflow_iff rfl scale).1 overflows)
  · rintro ⟨nonce, ready, large⟩
    rcases Nat.lt_or_ge nonce (2 ^ 64) with word | count
    · obtain ⟨rate, -⟩ | ⟨inRange, price, priced, scale, coefficient⟩ :=
        gasPrice_cases (schedule.rate type)
      · exact .inl ⟨nonce, ready, .inr rate⟩
      · obtain ⟨_, reached⟩ := ready.reached
        obtain ⟨_, whole⟩ := ready.whole
        have plain := run_build_eq_ok.2 ⟨ready.own, _, nonce, _, price, reached,
          Prod.ext ready.counted rfl, word, whole, priced, rfl⟩
        refine .inr ⟨_, _, run_payment_build_eq_ok.2 ⟨_, plain, rfl⟩, ?_⟩
        rw [or_iff_right word.not_ge, Overflows, or_iff_right inRange.not_ge,
          ← coefficient] at large
        exact (EvmTransaction.fee_overflow_iff rfl scale).2 large
    · exact .inl ⟨nonce, ready, .inl count⟩

theorem payment_execute_overflow_iff :
    (((x.payment signer).execute amount sender destination memo schedule type).run oracle s).1 =
        .error .overflow ↔
      ∃ nonce, x.Ready { source := sender.address, destination, amount,
                         rate := schedule.rate type, memo } oracle s nonce ∧
        (2 ^ 64 ≤ nonce ∨ 2 ^ 96 ≤ |(schedule.rate type).toRat| * 10 ^ 9) := by
  rw [Payment.execute, run_bind_overflow_iff, payment_build_overflow_iff, build_overflow_iff]
  refine or_iff_left ?_
  rintro ⟨tx, t, -, overflows⟩
  obtain ⟨read, inquires⟩ := (x.payment signer).signer.sign_inquires tx
  refine (inquires.stays.bind fun signed => ?_) oracle t overflows
  exact (submit_bounded _ signed).bind fun receipt => Payment.settle_bounded amount receipt

/-- Once a payment has all that it asks for, its fee leaves the range of the numbers where the count
of transactions is no word or the price, alone or times the gas limit, is no decimal; and the
payment does where the count is no word or the price no decimal. -/
theorem payment_overflow_iff (x : Evm) (signer : Signer) (amount : Amount) (sender : Sender)
    (destination : String) (schedule : FeeSchedule) (type : FeeType) (oracle : Oracle)
    (s : Session) :
    ((((x.payment signer).fee amount sender destination schedule type).run oracle s).1 =
        .error .overflow ↔
      ∃ nonce, x.Ready { source := sender.address, destination, amount,
                         rate := schedule.rate type, memo := none } oracle s nonce ∧
        (2 ^ 64 ≤ nonce ∨ Overflows (schedule.rate type) (schedule.gasLimit.getD x.gasLimit))) ∧
    ∀ memo, (((x.payment signer).execute amount sender destination memo schedule type).run oracle
        s).1 = .error .overflow ↔
      ∃ nonce, x.Ready { source := sender.address, destination, amount,
                         rate := schedule.rate type, memo } oracle s nonce ∧
        (2 ^ 64 ≤ nonce ∨ 2 ^ 96 ≤ |(schedule.rate type).toRat| * 10 ^ 9) :=
  ⟨payment_fee_overflow_iff, fun _ => payment_execute_overflow_iff⟩

def counting (quantity : String) : Oracle :=
  .bodies ["\x7b\"jsonrpc\":\"2.0\",\"id\":1,\"result\":\"" ++ quantity ++ "\"\x7d"]

def ether : Amount := { currency := .eth, value := .ofUInt64 1 }

theorem minor_ether : ether.minor = .ok 1000000000000000000 := by decide +kernel

def afterAsking : Session := Session.empty.after [asked "eth_getTransactionCount"]

theorem run_sent_five :
    (node.sent holder.address).run (counting "0x5") .empty = (.ok 5, afterAsking) := by
  rw [sent, run_bind_ok (by rw [run_liftM, address_holder])]
  exact JsonRpc.run_call_ok node_permitted rfl rfl rfl

theorem run_sent_beyond :
    (node.sent holder.address).run (counting "0x10000000000000000") .empty =
      (.ok (2 ^ 64), afterAsking) := by
  rw [sent, run_bind_ok (by rw [run_liftM, address_holder])]
  exact JsonRpc.run_call_ok node_permitted rfl rfl rfl

theorem ready_home {quantity : String} {nonce : ℕ} (rate : Decimal)
    (counted : (node.sent holder.address).run (counting quantity) .empty =
      (.ok nonce, afterAsking)) :
    node.Ready { source := holder.address, destination := holder.address, amount := ether, rate
                 memo := none } (counting quantity) .empty nonce :=
  ⟨rfl, ⟨_, address_holder⟩, congrArg Prod.fst counted, _, minor_ether⟩

-- More transactions than a word counts, a price beyond all decimals, a gas limit beyond a price.
theorem payment_halted :
    (((node.payment .external).execute ether holder holder.address none
        (tenGweiSchedule none) .regular).run (counting "0x10000000000000000") .empty).1 =
          .error .overflow ∧
      (((node.payment .external).execute ether holder holder.address none
        { tenGweiSchedule none with regular := .ofNat (10 ^ 20) (by decide) } .regular).run
          (counting "0x5") .empty).1 = .error .overflow ∧
      (((node.payment .external).fee ether holder holder.address
        (tenGweiSchedule (some 18446744073709551615)) .regular).run (counting "0x5") .empty).1 =
          .error .overflow := by
  refine ⟨?_, ?_, ?_⟩
  · exact payment_execute_overflow_iff.2 ⟨_, ready_home _ run_sent_beyond, .inl le_rfl⟩
  · refine payment_execute_overflow_iff.2 ⟨_, ready_home _ run_sent_five, .inr ?_⟩
    change 2 ^ 96 ≤ |(Decimal.ofNat (10 ^ 20) (by decide)).toRat| * 10 ^ 9
    norm_num
  · refine payment_fee_overflow_iff.2 ⟨_, ready_home _ run_sent_five, .inr (.inr ?_)⟩
    change 2 ^ 96 ≤ ⌊|tenGwei.toRat| * 10 ^ 9⌋₊ * (18446744073709551615 : UInt64).toNat
    have price : |tenGwei.toRat| * 10 ^ 9 = (10 ^ 10 : ℕ) := by norm_num [tenGwei]
    rw [price, Nat.floor_natCast]
    decide

end Evm

end MultiWallet
