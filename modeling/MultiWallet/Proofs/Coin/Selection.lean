import Mathlib
import MultiWallet.Coin.Selection

set_option autoImplicit false

namespace MultiWallet.Coin

variable {currency : Currency} {target rate : Nat}

theorem largestWord_succ : largestWord + 1 = wordLimit := rfl

theorem toNat_ofNat_of_lt {n : Nat} (inRange : n < wordLimit) : (UInt64.ofNat n).toNat = n :=
  UInt64.toNat_ofNat_of_lt' inRange

@[simp] theorem totalValue_nil : totalValue [] = 0 := rfl

@[simp] theorem totalValue_cons (coin : Coin) (coins : List Coin) :
    totalValue (coin :: coins) = coin.value.toNat + totalValue coins := rfl

@[simp] theorem totalValue_append (a b : List Coin) :
    totalValue (a ++ b) = totalValue a + totalValue b := by
  induction a with
  | nil => simp
  | cons coin a ih =>
    rw [List.cons_append, totalValue_cons, totalValue_cons, ih]
    omega

theorem totalValue_perm {a b : List Coin} (perm : a.Perm b) : totalValue a = totalValue b := by
  induction perm with
  | nil => rfl
  | cons coin _ ih => rw [totalValue_cons, totalValue_cons, ih]
  | swap first second rest =>
    simp only [totalValue_cons]
    omega
  | trans _ _ first second => exact first.trans second

theorem virtualSize_mono (inputs : Nat) {a b : Nat} (le : a ≤ b) :
    virtualSize inputs a ≤ virtualSize inputs b := by
  simp only [virtualSize]
  omega

def Covers (target rate : Nat) (coins : List Coin) : Prop :=
  target + rate * virtualSize coins.length 1 ≤ totalValue coins

instance (coins : List Coin) : Decidable (Covers target rate coins) :=
  inferInstanceAs (Decidable (_ ≤ _))

/-- What a selection has to get right, counted without bounds: nothing is lost between inputs,
target, change and fee, and the fee is the one of its own size up to change not worth an output. -/
structure Settles (target rate : Nat) (s : Selection) : Prop where
  inRange : totalValue s.inputs < wordLimit
  balanced : totalValue s.inputs = target + (s.change.elim 0 UInt64.toNat) + s.fee.toNat
  change : ∀ change, s.change = some change → dustThreshold ≤ change.toNat ∧
    s.fee.toNat = rate * virtualSize s.inputs.length 2
  noChange : s.change = none → rate * virtualSize s.inputs.length 1 ≤ s.fee.toNat ∧
    s.fee.toNat < rate * virtualSize s.inputs.length 2 + dustThreshold

theorem Settles.le_fee {s : Selection} (settles : Settles target rate s) :
    rate * virtualSize s.inputs.length 1 ≤ s.fee.toNat := by
  cases change : s.change with
  | none => exact (settles.noChange change).1
  | some value =>
    rw [(settles.change value change).2]
    exact Nat.mul_le_mul_left _ (virtualSize_mono _ (by decide))

theorem Settles.covers {s : Selection} (settles : Settles target rate s) :
    Covers target rate s.inputs := by
  have balanced := settles.balanced
  have fee := settles.le_fee
  unfold Covers
  omega

theorem requirement?_eq_some {inputs outputs : Nat} {r : Requirement} :
    requirement? target inputs outputs rate = some r ↔
      r.fee = rate * virtualSize inputs outputs ∧ r.total = target + r.fee ∧
        r.total < wordLimit := by
  simp only [requirement?, Nat.mul_comm (virtualSize inputs outputs)]
  constructor
  · intro h
    split at h
    next fits =>
      cases h
      exact ⟨rfl, rfl, fits.2⟩
    next => cases h
  · rintro ⟨fee, total, fits⟩
    rw [total, fee] at fits
    rw [if_pos ⟨by omega, fits⟩]
    cases r
    simp_all

theorem withChange?_settles {inputs : List Coin} {s : Selection}
    (inRange : totalValue inputs < wordLimit)
    (found : withChange? inputs (totalValue inputs) target rate = some s) :
    s.inputs = inputs ∧ Settles target rate s := by
  simp only [withChange?, Option.bind_eq_bind, Option.bind_eq_some_iff] at found
  obtain ⟨r, required, found⟩ := found
  obtain ⟨fee, total, fits⟩ := requirement?_eq_some.1 required
  split at found
  next enough =>
    cases found
    have change : (UInt64.ofNat (totalValue inputs - r.total)).toNat =
        totalValue inputs - r.total := toNat_ofNat_of_lt (by omega)
    have feeInRange : (UInt64.ofNat r.fee).toNat = r.fee :=
      toNat_ofNat_of_lt (by omega)
    refine ⟨rfl, inRange, ?_, ?_, fun none => by cases none⟩
    · simp only [Option.elim_some, change, feeInRange]
      omega
    · rintro _ ⟨⟩
      exact ⟨by omega, by rw [feeInRange, fee]⟩
  next => cases found

theorem withoutChange?_settles {inputs : List Coin} {s : Selection}
    (inRange : totalValue inputs < wordLimit)
    (refused : withChange? inputs (totalValue inputs) target rate = none)
    (found : withoutChange? inputs (totalValue inputs) target rate = some s) :
    s.inputs = inputs ∧ Settles target rate s := by
  simp only [withoutChange?, Option.bind_eq_bind, Option.bind_eq_some_iff] at found
  obtain ⟨r, required, found⟩ := found
  obtain ⟨fee, total, fits⟩ := requirement?_eq_some.1 required
  split at found
  next enough =>
    cases found
    have feeInRange : (UInt64.ofNat (totalValue inputs - target)).toNat =
        totalValue inputs - target := toNat_ofNat_of_lt (by omega)
    refine ⟨rfl, inRange, ?_, (fun _ some => by cases some), fun _ => ?_⟩
    · simp only [Option.elim_none, feeInRange]
      omega
    · simp only [feeInRange]
      refine ⟨by omega, ?_⟩
      by_contra costly
      -- The inputs would then pay for change too, and it would be worth an output.
      have fits : target + rate * virtualSize inputs.length 2 < wordLimit := by omega
      have affordable : requirement? target inputs.length 2 rate = some
          { fee := rate * virtualSize inputs.length 2
            total := target + rate * virtualSize inputs.length 2 } :=
        requirement?_eq_some.2 ⟨rfl, rfl, fits⟩
      rw [withChange?, affordable] at refused
      simp only [Option.bind_eq_bind, Option.bind_some] at refused
      split at refused
      next => cases refused
      next little => omega
  next => cases found

theorem settle?_settles {inputs : List Coin} {s : Selection}
    (inRange : totalValue inputs < wordLimit)
    (found : settle? inputs (totalValue inputs) target rate = some s) :
    s.inputs = inputs ∧ Settles target rate s := by
  unfold settle? at found
  cases first : withChange? inputs (totalValue inputs) target rate with
  | some change =>
    rw [first] at found
    cases found
    exact withChange?_settles inRange first
  | none =>
    rw [first] at found
    exact withoutChange?_settles inRange first found

theorem not_covers_of_settle?_eq_none {inputs : List Coin}
    (inRange : totalValue inputs < wordLimit)
    (refused : settle? inputs (totalValue inputs) target rate = none) :
    ¬ Covers target rate inputs := by
  intro covers
  have fits : target + rate * virtualSize inputs.length 1 < wordLimit :=
    Nat.lt_of_le_of_lt covers inRange
  have affordable : requirement? target inputs.length 1 rate = some
      { fee := rate * virtualSize inputs.length 1
        total := target + rate * virtualSize inputs.length 1 } :=
    requirement?_eq_some.2 ⟨rfl, rfl, fits⟩
  have enough : withoutChange? inputs (totalValue inputs) target rate = none := by
    unfold settle? at refused
    exact ((Option.orElse_eq_none _ _).1 refused).2
  rw [withoutChange?, affordable] at enough
  simp only [Option.bind_eq_bind, Option.bind_some] at enough
  split at enough
  next => cases enough
  next little => exact little covers

-- What is chosen is the first run of coins that covers the payment.
theorem chooseFrom_ok (chosen : List Coin) {rest : List Coin} {s : Selection}
    (found : chooseFrom currency target rate chosen (totalValue chosen) rest = .ok s) :
    ∃ k, 0 < k ∧ k ≤ rest.length ∧ s.inputs = chosen ++ rest.take k ∧ Settles target rate s ∧
      ∀ j, 0 < j → j < k → ¬ Covers target rate (chosen ++ rest.take j) := by
  induction rest generalizing chosen with
  | nil => cases found
  | cons coin rest ih =>
    have total : totalValue chosen + coin.value.toNat = totalValue (chosen ++ [coin]) := by simp
    simp only [chooseFrom, total] at found
    split at found
    next inRange =>
      split at found
      next selection settled =>
        cases found
        obtain ⟨inputs, settles⟩ := settle?_settles inRange settled
        exact ⟨1, by omega, by simp, by simpa using inputs, settles, by omega⟩
      next refused =>
        obtain ⟨k, positive, le, inputs, settles, earlier⟩ := ih _ found
        refine ⟨k + 1, by omega, by simpa using le, by simpa using inputs, settles, ?_⟩
        intro j hj lt
        obtain ⟨j, rfl⟩ : ∃ i, j = i + 1 := ⟨j - 1, by omega⟩
        cases j with
        | zero => simpa using not_covers_of_settle?_eq_none inRange refused
        | succ j => simpa using earlier (j + 1) (by omega) (by omega)
    next => cases found

theorem chooseFrom_error (chosen : List Coin) {rest : List Coin} {halt : Halt}
    (inRange : totalValue (chosen ++ rest) < wordLimit)
    (refused : chooseFrom currency target rate chosen (totalValue chosen) rest = .error halt) :
    halt = .failure (shortfall currency (chosen ++ rest).length (totalValue (chosen ++ rest))
      target rate) ∧
    ∀ j, 0 < j → j ≤ rest.length → ¬ Covers target rate (chosen ++ rest.take j) := by
  induction rest generalizing chosen with
  | nil =>
    cases refused
    refine ⟨by simp, ?_⟩
    intro j positive le
    simp only [List.length_nil] at le
    omega
  | cons coin rest ih =>
    have total : totalValue chosen + coin.value.toNat = totalValue (chosen ++ [coin]) := by simp
    have fits : totalValue (chosen ++ [coin]) < wordLimit := by
      simp only [totalValue_append, totalValue_cons, totalValue_nil] at inRange ⊢
      omega
    simp only [chooseFrom, total, if_pos fits] at refused
    split at refused
    next => cases refused
    next unsettled =>
      obtain ⟨cause, later⟩ := ih _ (by simpa [Nat.add_assoc] using inRange) refused
      refine ⟨by simpa using cause, ?_⟩
      intro j positive le
      obtain ⟨j, rfl⟩ : ∃ i, j = i + 1 := ⟨j - 1, by omega⟩
      cases j with
      | zero => simpa using not_covers_of_settle?_eq_none fits unsettled
      | succ j => simpa using later (j + 1) (by omega) (by simpa using le)

theorem largestFirst_perm (coins : List Coin) : (largestFirst coins).Perm coins :=
  List.mergeSort_perm _ _

theorem largestFirst_sorted (coins : List Coin) :
    (largestFirst coins).Pairwise fun a b => b.value.toNat ≤ a.value.toNat := by
  have transitive (a b c : Coin) (ab : decide (b.value ≤ a.value) = true)
      (bc : decide (c.value ≤ b.value) = true) : decide (c.value ≤ a.value) = true := by
    simp only [decide_eq_true_eq, UInt64.le_iff_toNat_le] at ab bc ⊢
    omega
  have total (a b : Coin) :
      (decide (b.value ≤ a.value) || decide (a.value ≤ b.value)) = true := by
    simp only [Bool.or_eq_true, decide_eq_true_eq, UInt64.le_iff_toNat_le]
    omega
  exact (List.pairwise_mergeSort transitive total coins).imp fun le =>
    UInt64.le_iff_toNat_le.1 (of_decide_eq_true le)

theorem totalValue_largestFirst (coins : List Coin) :
    totalValue (largestFirst coins) = totalValue coins :=
  totalValue_perm (largestFirst_perm coins)

-- A coin in front of others that are worth no more takes the place of the last one taken.
theorem totalValue_take_le_cons {coin : Coin} {coins : List Coin}
    (largest : ∀ other ∈ coins, other.value.toNat ≤ coin.value.toNat) (k : Nat) :
    totalValue (coins.take k) ≤ totalValue ((coin :: coins).take k) := by
  cases k with
  | zero => simp
  | succ k =>
    rw [List.take_succ_cons, List.take_add_one, totalValue_append, totalValue_cons]
    cases last : coins[k]? with
    | none => simp
    | some other =>
      have le := largest other (List.mem_of_getElem? last)
      simp only [Option.toList_some, totalValue_cons, totalValue_nil]
      omega

theorem totalValue_le_take_of_sublist {coins part : List Coin}
    (sorted : coins.Pairwise fun a b => b.value.toNat ≤ a.value.toNat)
    (sub : part.Sublist coins) : totalValue part ≤ totalValue (coins.take part.length) := by
  induction sub with
  | slnil => simp
  | cons coin sub ih =>
    obtain ⟨largest, sorted⟩ := List.pairwise_cons.1 sorted
    exact (ih sorted).trans (totalValue_take_le_cons largest _)
  | cons_cons coin sub ih =>
    obtain ⟨-, sorted⟩ := List.pairwise_cons.1 sorted
    simpa using ih sorted

theorem totalValue_le_largest {pool part : List Coin} (sub : part.Subperm pool) :
    totalValue part ≤ totalValue ((largestFirst pool).take part.length) := by
  obtain ⟨sorted, perm, sublist⟩ := sub.trans (largestFirst_perm pool).symm.subperm
  rw [← totalValue_perm perm, ← perm.length_eq]
  exact totalValue_le_take_of_sublist (largestFirst_sorted pool) sublist

structure Funds (pool : List Coin) (target rate : Nat) (part : List Coin) : Prop where
  nonempty : part ≠ []
  fromPool : part.Subperm pool
  covers : Covers target rate part

theorem Funds.length_pos {pool part : List Coin} (funds : Funds pool target rate part) :
    0 < part.length := List.length_pos_iff.2 funds.nonempty

theorem Funds.length_le {pool part : List Coin} (funds : Funds pool target rate part) :
    part.length ≤ (largestFirst pool).length :=
  funds.fromPool.length_le.trans_eq (largestFirst_perm pool).length_eq.symm

theorem Funds.largest {pool part : List Coin} (funds : Funds pool target rate part) :
    Covers target rate ((largestFirst pool).take part.length) := by
  have worth := totalValue_le_largest funds.fromPool
  have covers := funds.covers
  unfold Covers at covers ⊢
  rw [List.length_take, Nat.min_eq_left funds.length_le]
  omega

theorem select_ok {pool : List Coin} {target rate : UInt64} {s : Selection}
    (found : select pool target rate currency = .ok s) :
    Settles target.toNat rate.toNat s ∧ Funds pool target.toNat rate.toNat s.inputs ∧
      ∀ part, Funds pool target.toNat rate.toNat part → s.inputs.length ≤ part.length := by
  obtain ⟨k, positive, le, inputs, settles, earlier⟩ := chooseFrom_ok [] found
  rw [List.nil_append] at inputs
  have length : s.inputs.length = k := by rw [inputs, List.length_take, Nat.min_eq_left le]
  have fromPool : s.inputs.Subperm pool := by
    rw [inputs]
    exact (List.take_sublist _ _).subperm.trans (largestFirst_perm pool).subperm
  refine ⟨settles, ⟨List.length_pos_iff.1 (by omega), fromPool, settles.covers⟩, ?_⟩
  intro part funds
  by_contra fewer
  exact earlier part.length funds.length_pos (by omega) (by simpa using funds.largest)

theorem select_error {pool : List Coin} {target rate : UInt64} {halt : Halt}
    (inRange : totalValue pool < wordLimit)
    (refused : select pool target rate currency = .error halt) :
    halt = .failure (shortfall currency pool.length (totalValue pool) target.toNat rate.toNat) ∧
      ∀ part, ¬ Funds pool target.toNat rate.toNat part := by
  obtain ⟨cause, uncovered⟩ := chooseFrom_error []
    (by simpa [totalValue_largestFirst] using inRange) refused
  rw [List.nil_append, totalValue_largestFirst, (largestFirst_perm pool).length_eq] at cause
  refine ⟨cause, ?_⟩
  intro part funds
  exact uncovered part.length funds.length_pos funds.length_le (by simpa using funds.largest)

/-- The payment is made exactly where some part of the pool could cover it, with as few coins as
any such part has; otherwise the whole pool is what was held. -/
theorem select_fewest (pool : List Coin) (target rate : UInt64) (currency : Currency)
    (inRange : totalValue pool < wordLimit) :
    ((∃ s, select pool target rate currency = .ok s) ↔
      ∃ part, Funds pool target.toNat rate.toNat part) ∧
    (∀ s, select pool target rate currency = .ok s →
      IsLeast (List.length '' {part | Funds pool target.toNat rate.toNat part})
        s.inputs.length) ∧
    ((¬ ∃ part, Funds pool target.toNat rate.toNat part) →
      ∃ (held : UInt64) (needed : String), held.toNat = totalValue pool ∧
        select pool target rate currency =
          fail (.insufficientFunds currency (Amount.ofMinor currency held).toText needed)) := by
  have succeeds (s : Selection) (found : select pool target rate currency = .ok s) :
      ∃ part, Funds pool target.toNat rate.toNat part := ⟨s.inputs, (select_ok found).2.1⟩
  refine ⟨⟨fun ⟨s, found⟩ => succeeds s found, ?_⟩, ?_, ?_⟩
  · rintro ⟨part, funds⟩
    cases result : select pool target rate currency with
    | ok s => exact ⟨s, rfl⟩
    | error halt => exact absurd funds ((select_error inRange result).2 part)
  · intro s found
    obtain ⟨-, funds, fewest⟩ := select_ok found
    refine ⟨⟨s.inputs, funds, rfl⟩, ?_⟩
    rintro _ ⟨part, other, rfl⟩
    exact fewest part other
  · intro none
    cases result : select pool target rate currency with
    | ok s => exact absurd (succeeds s result) none
    | error halt =>
      obtain ⟨rfl, -⟩ := select_error inRange result
      exact ⟨.ofNat (totalValue pool), _, toNat_ofNat_of_lt inRange, rfl⟩

def twoCoins : List Coin :=
  [{ txid := "a", index := 0, value := 60000 }, { txid := "b", index := 1, value := 60000 }]

theorem select_fewest_twoCoins :
    totalValue twoCoins < wordLimit ∧
      ∃ s, select twoCoins 100000 2 .bch = .ok s ∧ s.inputs.length ≤ 2 := by
  have inRange : totalValue twoCoins < wordLimit := by decide
  have funds : Funds twoCoins 100000 2 twoCoins := ⟨by decide, .refl _, by decide⟩
  obtain ⟨succeeds, fewest, -⟩ := select_fewest twoCoins 100000 2 .bch inRange
  obtain ⟨s, found⟩ := succeeds.2 ⟨twoCoins, funds⟩
  exact ⟨inRange, s, found, (fewest s found).2 ⟨twoCoins, funds, rfl⟩⟩

end MultiWallet.Coin
