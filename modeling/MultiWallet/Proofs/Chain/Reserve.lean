import MultiWallet.Proofs.Chain.Overflow

set_option autoImplicit false

namespace MultiWallet

open Dialogue

theorem Amount.remainder_exact {a b : Amount} {e : Decimal} (same : a.currency = b.currency)
    (value : e.toRat = a.value.toRat - b.value.toRat) :
    ∃ rest, a.remainder b = .ok rest ∧ rest.currency = a.currency ∧
      rest.value.toRat = max (a.value.toRat - b.value.toRat) 0 := by
  obtain ⟨d, difference, exact⟩ := Decimal.sub?_exact value
  have subtracted : a.sub b = .ok { currency := a.currency, value := d } := by
    rw [sub, requireCurrency_eq_ok.2 same, Checked.ok_bind, difference]
  obtain ⟨rest, left⟩ : ∃ rest, a.remainder b = .ok rest := by
    rw [remainder, subtracted]
    exact ⟨_, rfl⟩
  obtain ⟨d', found, currency, kept⟩ := remainder_eq left
  cases difference.symm.trans found
  exact ⟨rest, left, currency, exact ▸ kept⟩

variable {oracle : Oracle} {s t : Session} {account : String} {rate : Decimal} {a : StellarAccount}

theorem StellarServer.run_account?_ok {server : StellarServer}
    (replied : (server.account account).run oracle s = (.ok a, t)) :
    (server.account? account).run oracle s = (.ok (some a), t) := by
  rw [account?, run_bind_ok (run_attempt_ok replied)]
  rfl

theorem StellarAccount.nextSequence_eq_ok {sequence : ℤ} :
    a.nextSequence = .ok sequence ↔
      Text.readSigned (2 ^ 63 - 1) a.sequence.toList = .ok (sequence - 1) ∧ sequence < 2 ^ 63 := by
  unfold nextSequence
  cases Text.readSigned (2 ^ 63 - 1) a.sequence.toList with
  | error e => simp
  | ok n =>
    simp only [Except.ok.injEq]
    split
    next inRange =>
      rw [Except.ok.injEq]
      omega
    next last =>
      refine iff_of_false (by simp) ?_
      omega

theorem StellarAccount.nextSequence_eq {sequence : ℤ}
    (numbered : Text.readSigned (2 ^ 63 - 1) a.sequence.toList = .ok sequence)
    (notLast : sequence < 2 ^ 63 - 1) : a.nextSequence = .ok (sequence + 1) :=
  nextSequence_eq_ok.2 ⟨by rwa [add_sub_cancel_right], by omega⟩

namespace Stellar

def charge (rate : Decimal) : Amount := .ofMinor .xlm (baseFee rate).toUInt64

theorem spendable_exact {native : Decimal} {stroops : ℕ} (known : a.nativeBalance = .ok native)
    (holds : native.toRat = stroops / 10 ^ 7) (ledger : stroops < 2 ^ 63)
    (entries : 2 + a.subentries.toNat < 2 ^ 32) (rate : Decimal) :
    ∃ m, spendable a rate = .ok m ∧ m.currency = .xlm ∧
      m.value.toRat = max (native.toRat - a.reserved - (charge rate).value.toRat) 0 := by
  obtain ⟨minimum, kept, reserved⟩ := StellarAccount.minimumBalance_exact entries
  have fee : (charge rate).value.toRat = (baseFee rate).toNat / 10 ^ 7 :=
    Amount.toRat_ofMinor .xlm _
  have word := (baseFee rate).toNat_lt
  have half : a.reserved = ((2 + a.subentries.toNat) * 5000000 : ℕ) / 10 ^ 7 := by
    rw [StellarAccount.reserved]
    push_cast
    ring
  obtain ⟨e, beyond⟩ := Amount.exists_difference (m := stroops)
    (n := (2 + a.subentries.toNat) * 5000000) (k := 7) (by decide) (by omega) (by omega)
  rw [← holds, ← half, ← reserved] at beyond
  obtain ⟨free, difference, exact⟩ := Decimal.sub?_exact beyond
  obtain ⟨e, rest⟩ := Amount.exists_difference (m := stroops)
    (n := (2 + a.subentries.toNat) * 5000000 + (baseFee rate).toNat) (k := 7) (by decide)
    (by omega) (by omega)
  rw [Nat.cast_add, add_div, ← holds, ← half, ← fee, ← sub_sub, ← reserved, ← exact] at rest
  obtain ⟨m, left, currency, value⟩ := Amount.remainder_exact
    (a := { currency := .xlm, value := free }) (b := charge rate) rfl rest
  refine ⟨m, ?_, currency, by rw [value, exact, reserved]⟩
  rw [spendable, known, Checked.ok_bind, kept, Checked.ok_bind, difference]
  exact left

variable {x : Stellar}

theorem run_maximum_known (replied : (x.server.account account).run oracle s = (.ok a, t)) :
    (x.maximum account rate).run oracle s = (spendable a rate, t) := by
  rw [maximum, run_bind_ok (StellarServer.run_account?_ok replied)]
  rfl

def operation (present : Bool) (destination : String) (value : Decimal) : LedgerOperation :=
  if present then .payment destination value else .createAccount destination value

theorem run_operationFor {destination : String} {value : Decimal} {present : Bool}
    (found : (x.exists? destination).run oracle s = (.ok present, t)) :
    (x.operationFor destination value).run oracle s =
      (.ok (operation present destination value), t) := by
  rw [operationFor, run_bind_ok found]
  cases present <;> rfl

theorem run_build_known {transfer : Transfer} {u : Session} {sequence : ℤ} {present : Bool}
    (currency : transfer.amount.currency = .xlm)
    (replied : (x.server.account transfer.source).run oracle s = (.ok a, t))
    (numbered : a.nextSequence = .ok sequence)
    (found : (x.exists? transfer.destination).run oracle t = (.ok present, u)) :
    (x.build transfer).run oracle s =
      (.ok
        { network := x.network, passphrase := x.network.passphrase, source := a.id, sequence
          feeStroops := baseFee transfer.rate, memo := transfer.memo
          operations := [operation present transfer.destination transfer.amount.value] }, u) := by
  rw [build, if_neg (not_not.2 currency), run_bind_ok replied, numbered, liftM_ok_bind,
    run_bind_ok (run_operationFor found)]
  rfl

/-- The most that an account can pay: nothing, where its balance is no more than the reserve and the
fee; and otherwise so much that the payment, its fee and the reserve come to the balance, and it can
be paid as long as the account is the same, whether or not the destination is there. -/
theorem maximum_exhausts (x : Stellar) (account : String) (rate : Decimal) (a : StellarAccount)
    (native : Decimal) (stroops : ℕ) (sequence : ℤ) (oracle : Oracle) (s t : Session)
    (known : a.nativeBalance = .ok native) (holds : native.toRat = stroops / 10 ^ 7)
    (ledger : stroops < 2 ^ 63) (entries : 2 + a.subentries.toNat < 2 ^ 32)
    (numbered : Text.readSigned (2 ^ 63 - 1) a.sequence.toList = .ok sequence)
    (notLast : sequence < 2 ^ 63 - 1)
    (replied : (x.server.account account).run oracle s = (.ok a, t)) :
    ∃ m, (x.maximum account rate).run oracle s = (.ok m, t) ∧ m.currency = .xlm ∧
      (native.toRat ≤ a.reserved + (charge rate).value.toRat → m.value.toRat = 0) ∧
      (a.reserved + (charge rate).value.toRat < native.toRat →
        ∀ (destination : String) (memo : Option String) (later : Oracle) (u v w : Session)
          (present : Bool), (x.server.account account).run later u = (.ok a, v) →
          (x.exists? destination).run later v = (.ok present, w) →
          ∃ tx fee,
            (x.build { source := account, destination, amount := m, rate, memo }).run later u =
              (.ok tx, w) ∧
            tx.operations = [operation present destination m.value] ∧
            (UnsignedTransaction.ledger tx).fee = .ok fee ∧ fee.currency = .xlm ∧
            m.value.toRat + fee.value.toRat + a.reserved = native.toRat) := by
  obtain ⟨m, most, currency, value⟩ := spendable_exact known holds ledger entries rate
  refine ⟨m, by rw [run_maximum_known replied, most], currency, ?_, ?_⟩
  · intro short
    rw [value, max_eq_right (by linarith)]
  · intro enough destination memo later u v w present again found
    refine ⟨_, charge rate, run_build_known currency again
      (StellarAccount.nextSequence_eq numbered notLast) found, rfl, rfl, rfl, ?_⟩
    rw [value, max_eq_left (by linarith)]
    ring

-- The account owns one entry, so that it has to keep one and a half of its ten lumens.
def ownerOfTen : StellarAccount :=
  { id := "GSRC", sequence := "41", subentries := 1
    balances := [{ balance := "10.0000000", assetType := "native", assetCode := none }] }

def knowingOwner : Oracle
  | _, .stellarAccount _ id =>
    if id = ownerOfTen.id then .ok ownerOfTen else .error (.ledger 404 "Resource Missing")
  | _, c => c.refused

def ownerLedger : Stellar := { server := .external "ledger", network := .test }

theorem maximum_exhausts_ownerOfTen :
    ∃ m t tx fee w,
      (ownerLedger.maximum "GSRC" (.ofUInt64 100)).run knowingOwner .empty = (.ok m, t) ∧
      (ownerLedger.build { source := "GSRC", destination := "GNEW", amount := m
                           rate := .ofUInt64 100, memo := none }).run knowingOwner .empty =
        (.ok tx, w) ∧
      tx.operations = [.createAccount "GNEW" m.value] ∧
      (UnsignedTransaction.ledger tx).fee = .ok fee ∧
      m.value.toRat + fee.value.toRat + 3 / 2 = 10 := by
  have native : ownerOfTen.nativeBalance =
      .ok { negative := false, coefficient := 100000000, scale := 7 } := by decide +kernel
  have ten : Decimal.toRat { negative := false, coefficient := 100000000, scale := 7 } = 10 := by
    norm_num [Decimal.toRat, Decimal.ratio]
  have reserved : ownerOfTen.reserved = 3 / 2 := by
    have entries : ownerOfTen.subentries.toNat = 1 := rfl
    rw [StellarAccount.reserved, entries]
    norm_num
  have fee : (charge (.ofUInt64 100)).value.toRat = 100 / 10 ^ 7 := Amount.toRat_ofMinor .xlm 100
  obtain ⟨m, most, -, -, pays⟩ := maximum_exhausts ownerLedger "GSRC" (.ofUInt64 100) ownerOfTen _
    100000000 41 knowingOwner .empty _ native (by rw [ten]; norm_num) (by decide) (by decide)
    (by decide +kernel) (by decide) rfl
  obtain ⟨tx, cost, built, operations, charged, -, uses⟩ :=
    pays (by rw [ten, reserved, fee]; norm_num) "GNEW" none knowingOwner .empty _ _ false rfl rfl
  rw [ten, reserved] at uses
  exact ⟨m, _, tx, cost, _, most, built, operations, charged, uses⟩

end Stellar

end MultiWallet
