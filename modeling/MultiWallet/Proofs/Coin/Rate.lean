import MultiWallet.Proofs.Coin.Selection

set_option autoImplicit false

namespace MultiWallet.Coin

variable {currency : Currency} {target rate low high : Nat} {s t : Selection}

theorem Covers.mono {coins : List Coin} (le : low ≤ high) (covers : Covers target high coins) :
    Covers target low coins :=
  (Nat.add_le_add_left (Nat.mul_le_mul_right _ le) _).trans covers

theorem virtualSize_le_of_lt {m n : Nat} (fewer : m < n) : virtualSize m 2 ≤ virtualSize n 1 := by
  simp only [virtualSize]
  omega

theorem Settles.fee_le_of_same (cheap : Settles target low s) (costly : Settles target high t)
    (le : low ≤ high) (same : s.inputs = t.inputs) : s.fee.toNat ≤ t.fee.toNat := by
  have larger : low * virtualSize s.inputs.length 2 ≤ high * virtualSize t.inputs.length 2 := by
    rw [same]
    exact Nat.mul_le_mul_right _ le
  have balanced := cheap.balanced
  rw [same, costly.balanced] at balanced
  cases returned : t.change with
  | none =>
    rw [returned, Option.elim_none] at balanced
    omega
  | some value =>
    obtain ⟨worth, rated⟩ := costly.change value returned
    cases kept : s.change with
    | none =>
      -- What pays for change at the higher rate would do so at the lower one.
      have fee := (cheap.noChange kept).2
      rw [returned, kept, Option.elim_none, Option.elim_some] at balanced
      omega
    | some other =>
      rw [(cheap.change other kept).2, rated]
      exact larger

theorem Settles.fee_le_of_fewer (cheap : Settles target low s) (costly : Settles target high t)
    (le : low ≤ high) (fewer : s.inputs.length < t.inputs.length)
    (uncovered : ¬ Covers target high s.inputs) : s.fee.toNat ≤ t.fee.toNat := by
  refine le_trans ?_ costly.le_fee
  have size := virtualSize_le_of_lt fewer
  cases kept : s.change with
  | none =>
    -- All that the inputs are worth beyond the target does not pay for them at the higher rate.
    have balanced := cheap.balanced
    rw [kept, Option.elim_none] at balanced
    unfold Covers at uncovered
    have smaller : high * virtualSize s.inputs.length 1 ≤ high * virtualSize t.inputs.length 1 :=
      Nat.mul_le_mul_left _ ((virtualSize_mono _ (by decide)).trans size)
    omega
  | some value =>
    rw [(cheap.change value kept).2]
    exact Nat.mul_le_mul le size

theorem chooseFrom_of_covers (chosen : List Coin) {rest : List Coin} {k : Nat}
    (inRange : totalValue (chosen ++ rest.take k) < wordLimit) (positive : 0 < k)
    (le : k ≤ rest.length) (covers : Covers target rate (chosen ++ rest.take k)) :
    ∃ s, chooseFrom currency target rate chosen (totalValue chosen) rest = .ok s := by
  induction rest generalizing chosen k with
  | nil =>
    simp only [List.length_nil] at le
    omega
  | cons coin rest ih =>
    obtain ⟨k, rfl⟩ : ∃ i, k = i + 1 := ⟨k - 1, by omega⟩
    have total : totalValue chosen + coin.value.toNat = totalValue (chosen ++ [coin]) := by simp
    rw [List.take_succ_cons, List.append_cons] at inRange covers
    have fits : totalValue (chosen ++ [coin]) < wordLimit := by
      rw [totalValue_append] at inRange
      omega
    simp only [chooseFrom, total, if_pos fits]
    split
    next selection settled => exact ⟨selection, rfl⟩
    next refused =>
      have uncovered := not_covers_of_settle?_eq_none fits refused
      cases k with
      | zero => exact absurd (by simpa using covers) uncovered
      | succ k => exact ih _ inRange (by omega) (by simpa using le) covers

/-- A payment that is made at a rate is made at every lower rate, from the first of the same coins,
and its fee is no higher. -/
theorem select_mono (pool : List Coin) (target low high : UInt64) (currency : Currency)
    (le : low ≤ high) (t : Selection) (found : select pool target high currency = .ok t) :
    ∃ s, select pool target low currency = .ok s ∧ s.inputs <+: t.inputs ∧ s.fee ≤ t.fee := by
  have rates := UInt64.le_iff_toNat_le.1 le
  obtain ⟨n, positive, most, taken, costly, uncovered⟩ := chooseFrom_ok [] found
  have covers : Covers target.toNat low.toNat ([] ++ (largestFirst pool).take n) :=
    taken ▸ costly.covers.mono rates
  obtain ⟨s, chosen⟩ : ∃ s, select pool target low currency = .ok s :=
    chooseFrom_of_covers [] (taken ▸ costly.inRange) positive most covers
  obtain ⟨k, least, -, first, cheap, earlier⟩ := chooseFrom_ok [] chosen
  have fewer : k ≤ n := not_lt.1 fun more => earlier n positive more covers
  refine ⟨s, chosen, ?_, UInt64.le_iff_toNat_le.2 ?_⟩
  · rw [first, taken]
    exact List.take_prefix_take_left fewer
  · rcases fewer.eq_or_lt with rfl | fewer
    · exact cheap.fee_le_of_same costly rates (first.trans taken.symm)
    · refine cheap.fee_le_of_fewer costly rates ?_ ?_
      · rw [first, taken, List.nil_append, List.nil_append, List.length_take, List.length_take]
        omega
      · rw [first]
        exact uncovered k least fewer

def scarceCoins : List Coin :=
  [{ txid := "a", index := 0, value := 100300 }, { txid := "b", index := 1, value := 60000 }]

theorem select_mono_scarceCoins :
    ∃ s, select scarceCoins 100000 1 .btc = .ok s ∧ s.inputs <+: scarceCoins ∧ s.fee ≤ 748 := by
  have sorted : largestFirst scarceCoins = scarceCoins :=
    List.mergeSort_of_pairwise (by decide)
  have costly : select scarceCoins 100000 2 .btc =
      .ok { inputs := scarceCoins, change := some 59552, fee := 748 } := by
    rw [select, sorted]
    rfl
  exact select_mono scarceCoins 100000 1 2 .btc (by decide) _ costly

end MultiWallet.Coin
