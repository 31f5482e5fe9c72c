import MultiWallet.Proofs.Coin.Selection

set_option autoImplicit false

namespace MultiWallet.Coin

variable {currency : Currency} {pool : List Coin}

def inputSize : Nat := 148

/-- The coins that are worth at least the fee for their own input. -/
def worthwhile (pool : List Coin) (rate : Nat) : List Coin :=
  pool.filter fun coin => rate * inputSize ≤ coin.value.toNat

theorem worthwhile_sublist (pool : List Coin) (rate : Nat) : (worthwhile pool rate).Sublist pool :=
  List.filter_sublist

theorem totalValue_le_of_sublist {part : List Coin} (sub : part.Sublist pool) :
    totalValue part ≤ totalValue pool := by
  induction sub with
  | slnil => exact Nat.le_refl _
  | cons coin _ ih =>
    rw [totalValue_cons]
    omega
  | cons_cons coin _ ih =>
    rw [totalValue_cons, totalValue_cons]
    omega

theorem totalValue_le_of_subperm {part : List Coin} (sub : part.Subperm pool) :
    totalValue part ≤ totalValue pool := by
  obtain ⟨sorted, perm, sublist⟩ := sub
  rw [← totalValue_perm perm]
  exact totalValue_le_of_sublist sublist

theorem sweep_eq (rate : UInt64) (inRange : totalValue pool < wordLimit) :
    sweep pool rate = totalValue pool - rate.toNat * virtualSize pool.length 1 := by
  rw [sweep, Nat.mul_comm]
  cases pool with
  | nil => simp
  | cons coin rest =>
    have limit := largestWord_succ
    rw [if_neg (by simp)]
    omega

theorem sweep_lt (rate : UInt64) (inRange : totalValue pool < wordLimit) :
    sweep pool rate < wordLimit := by
  rw [sweep_eq rate inRange]
  omega

theorem funds_of_le_sweep {target : Nat} {rate : UInt64} (inRange : totalValue pool < wordLimit)
    (positive : 0 < target) (le : target ≤ sweep pool rate) :
    Funds pool target rate.toNat pool := by
  rw [sweep_eq rate inRange] at le
  refine ⟨?_, .refl _, ?_⟩
  · rintro rfl
    rw [totalValue_nil] at le
    omega
  · unfold Covers
    omega

theorem worth_le_worthwhile {part : List Coin} (sub : part.Sublist pool) (rate : Nat) :
    totalValue part + rate * inputSize * (worthwhile pool rate).length ≤
      totalValue (worthwhile pool rate) + rate * inputSize * part.length := by
  induction sub with
  | slnil => simp [worthwhile]
  | @cons part rest coin _ ih =>
    by_cases worth : rate * inputSize ≤ coin.value.toNat
    · rw [worthwhile, List.filter_cons_of_pos (by simpa using worth), ← worthwhile,
        totalValue_cons, List.length_cons, Nat.mul_succ]
      omega
    · rwa [worthwhile, List.filter_cons_of_neg (by simpa using worth), ← worthwhile]
  | @cons_cons part rest coin _ ih =>
    by_cases worth : rate * inputSize ≤ coin.value.toNat
    · rw [worthwhile, List.filter_cons_of_pos (by simpa using worth), ← worthwhile,
        totalValue_cons, totalValue_cons, List.length_cons, List.length_cons, Nat.mul_succ,
        Nat.mul_succ]
      omega
    · rw [worthwhile, List.filter_cons_of_neg (by simpa using worth), ← worthwhile,
        totalValue_cons, List.length_cons, Nat.mul_succ]
      omega

-- Where the size of a transaction is cut off, its fee is more than any pool in range is worth.
theorem size_of_covers {target rate : Nat} {part : List Coin}
    (inRange : totalValue part < wordLimit) (positive : 0 < target)
    (covers : Covers target rate part) :
    rate * virtualSize part.length 1 = rate * 44 + rate * inputSize * part.length := by
  rw [Nat.mul_assoc, ← Nat.mul_add]
  rcases Nat.eq_zero_or_pos rate with rfl | rated
  · simp
  · unfold Covers at covers
    have fee : virtualSize part.length 1 ≤ rate * virtualSize part.length 1 :=
      Nat.le_mul_of_pos_left _ rated
    have limit := largestWord_succ
    have small : virtualSize part.length 1 < largestWord := by omega
    have whole : virtualSize part.length 1 = 44 + inputSize * part.length := by
      simp only [virtualSize, inputSize] at small ⊢
      omega
    rw [whole]

theorem Funds.le_sweep_worthwhile {target : Nat} {rate : UInt64} {part : List Coin}
    (funds : Funds pool target rate.toNat part) (inRange : totalValue pool < wordLimit)
    (positive : 0 < target) : target ≤ sweep (worthwhile pool rate.toNat) rate := by
  obtain ⟨-, ⟨listed, perm, sublist⟩, covers⟩ := funds
  have small : totalValue part < wordLimit := by
    rw [← totalValue_perm perm]
    exact (totalValue_le_of_sublist sublist).trans_lt inRange
  have size := size_of_covers small positive covers
  have worth := worth_le_worthwhile sublist rate.toNat
  rw [totalValue_perm perm, perm.length_eq] at worth
  have cut : rate.toNat * virtualSize (worthwhile pool rate.toNat).length 1 ≤
      rate.toNat * 44 + rate.toNat * inputSize * (worthwhile pool rate.toNat).length := by
    rw [Nat.mul_assoc, ← Nat.mul_add]
    refine Nat.mul_le_mul_left _ ?_
    simp only [virtualSize, inputSize]
    omega
  unfold Covers at covers
  rw [sweep_eq rate ((totalValue_le_of_sublist (worthwhile_sublist _ _)).trans_lt inRange)]
  omega

def Refuses (pool : List Coin) (target rate : UInt64) (currency : Currency) : Prop :=
  ∃ held needed, select pool target rate currency = fail (.insufficientFunds currency held needed)

theorem refuses_iff {target rate : UInt64} (inRange : totalValue pool < wordLimit) :
    Refuses pool target rate currency ↔ ∀ part, ¬ Funds pool target.toNat rate.toNat part := by
  constructor
  · rintro ⟨held, needed, refused⟩
    exact (select_error inRange refused).2
  · intro unfunded
    cases result : select pool target rate currency with
    | ok s => exact absurd (select_ok result).2.1 (unfunded _)
    | error halt =>
      obtain ⟨rfl, -⟩ := select_error inRange result
      exact ⟨_, _, result⟩

theorem refuses_iff_sweep_lt {target rate : UInt64} (inRange : totalValue pool < wordLimit)
    (positive : 0 < target.toNat) :
    Refuses pool target rate currency ↔ sweep (worthwhile pool rate.toNat) rate < target.toNat := by
  have sublist := worthwhile_sublist pool rate.toNat
  rw [refuses_iff inRange, ← not_le]
  constructor
  · intro unfunded le
    have kept := (totalValue_le_of_sublist sublist).trans_lt inRange
    have funds := funds_of_le_sweep kept positive le
    exact unfunded _ ⟨funds.nonempty, sublist.subperm, funds.covers⟩
  · intro more part funds
    exact more (funds.le_sweep_worthwhile inRange positive)

theorem sweep_le_worthwhile {rate : UInt64} (inRange : totalValue pool < wordLimit) :
    sweep pool rate ≤ sweep (worthwhile pool rate.toNat) rate := by
  rcases Nat.eq_zero_or_pos (sweep pool rate) with none | positive
  · omega
  · exact (funds_of_le_sweep inRange positive (Nat.le_refl _)).le_sweep_worthwhile inRange positive

/-- A positive target is refused exactly where it is more than what is left of the coins that are
worth the fee for their own input; so all that is more than the sweep of the whole pool is refused
exactly where the other coins do not lessen the sweep. -/
theorem sweep_largest_iff (pool : List Coin) (rate : UInt64) (currency : Currency)
    (inRange : totalValue pool < wordLimit) :
    (∀ target : UInt64, 0 < target.toNat →
      (Refuses pool target rate currency ↔
        sweep (worthwhile pool rate.toNat) rate < target.toNat)) ∧
    ((∀ target : UInt64, sweep pool rate < target.toNat → Refuses pool target rate currency) ↔
      sweep pool rate = sweep (worthwhile pool rate.toNat) rate) := by
  refine ⟨fun target positive => refuses_iff_sweep_lt inRange positive, ?_⟩
  have le : sweep pool rate ≤ sweep (worthwhile pool rate.toNat) rate := sweep_le_worthwhile inRange
  constructor
  · intro refused
    by_contra different
    -- The sweep of the coins that are worth their fee is itself a target, and it is paid.
    have kept : totalValue (worthwhile pool rate.toNat) < wordLimit :=
      (totalValue_le_of_sublist (worthwhile_sublist _ _)).trans_lt inRange
    have word := toNat_ofNat_of_lt (sweep_lt rate kept)
    have most := refused (.ofNat (sweep (worthwhile pool rate.toNat) rate)) (by omega)
    rw [refuses_iff_sweep_lt inRange (by omega), word] at most
    exact Nat.lt_irrefl _ most
  · intro same target more
    rw [refuses_iff_sweep_lt inRange (by omega), ← same]
    exact more

def coinAndGrain : List Coin :=
  [{ txid := "coin", index := 0, value := 100000 }, { txid := "grain", index := 0, value := 1 }]

theorem sweep_largest_iff_coinAndGrain :
    totalValue coinAndGrain < wordLimit ∧ sweep coinAndGrain 10 = 96601 ∧
      Refuses coinAndGrain 98081 10 .btc ∧ ¬ Refuses coinAndGrain 98080 10 .btc := by
  have inRange : totalValue coinAndGrain < wordLimit := by decide
  have refused := (sweep_largest_iff coinAndGrain 10 .btc inRange).1
  refine ⟨inRange, by decide, ?_, ?_⟩
  · rw [refused 98081 (by decide)]
    decide
  · rw [refused 98080 (by decide)]
    decide

theorem sweep_exceeded :
    totalValue coinAndGrain < wordLimit ∧ sweep coinAndGrain 10 < (97000 : UInt64).toNat ∧
      ∃ s, select coinAndGrain 97000 10 .btc = .ok s := by
  have sorted : largestFirst coinAndGrain = coinAndGrain :=
    List.mergeSort_of_pairwise (by decide)
  refine ⟨by decide, by decide, ?_⟩
  rw [select, sorted]
  exact ⟨_, rfl⟩

end MultiWallet.Coin
