import MultiWallet.Account.Queries
import MultiWallet.Proofs.Amount.Minor

set_option autoImplicit false

namespace MultiWallet.Totals

variable {totals next : Totals} {amounts earlier later : List Amount} {amount : Amount}
  {c : Currency}

def held (totals : Totals) (c : Currency) : Decimal := (totals c).getD .zero

def addAll (totals : Totals) (amounts : List Amount) : Checked Totals :=
  amounts.foldlM Totals.add totals

theorem addAll_cons :
    totals.addAll (amount :: amounts) = totals.add amount >>= fun next => next.addAll amounts :=
  List.foldlM_cons

theorem add_cases (totals : Totals) (amount : Amount) :
    (totals.add amount = .error .overflow ∧
        Decimal.overflowThreshold ≤ |(totals.held amount.currency).toRat + amount.value.toRat|) ∨
      ∃ v, (totals.held amount.currency).add? amount.value = some v ∧
        totals.add amount = .ok fun c => if c = amount.currency then some v else totals c := by
  unfold add
  rw [← Decimal.add?_eq_none_iff, held]
  cases ((totals amount.currency).getD .zero).add? amount.value with
  | none => exact .inl ⟨rfl, rfl⟩
  | some v => exact .inr ⟨v, rfl, rfl⟩

def sum (amounts : List Amount) (c : Currency) : ℚ :=
  ((amounts.filter (·.currency = c)).map (·.value.toRat)).sum

@[simp] theorem sum_nil (c : Currency) : sum [] c = 0 := rfl

theorem sum_cons (amount : Amount) (amounts : List Amount) (c : Currency) :
    sum (amount :: amounts) c =
      (if amount.currency = c then amount.value.toRat else 0) + sum amounts c := by
  by_cases same : amount.currency = c <;> simp [sum, same]

theorem sum_append (earlier later : List Amount) (c : Currency) :
    sum (earlier ++ later) c = sum earlier c + sum later c := by
  simp [sum]

theorem sum_perm (same : later.Perm earlier) (c : Currency) : sum later c = sum earlier c :=
  ((same.filter _).map _).sum_eq

theorem sum_of_absent (absent : c ∉ amounts.map Amount.currency) : sum amounts c = 0 := by
  have none : amounts.filter (·.currency = c) = [] := by
    rw [List.filter_eq_nil_iff]
    intro amount member same
    exact absent (List.mem_map.2 ⟨amount, member, of_decide_eq_true same⟩)
  rw [sum, none, List.map_nil, List.sum_nil]

/-- Whole numbers of smallest units, whose sums have no more of them than a coefficient can hold. -/
structure Countable (amounts : List Amount) : Prop where
  whole : ∀ amount ∈ amounts, amount.Whole
  inRange : ∀ c : Currency, sum amounts c * 10 ^ c.places < 2 ^ 96

theorem sum_whole (whole : ∀ amount ∈ amounts, amount.Whole) (c : Currency) :
    ∃ n : ℕ, sum amounts c * 10 ^ c.places = n := by
  induction amounts with
  | nil => exact ⟨0, by simp⟩
  | cons amount rest ih =>
    obtain ⟨n, others⟩ := ih fun a member => whole a (List.mem_cons_of_mem _ member)
    obtain ⟨m, units⟩ := whole amount List.mem_cons_self
    rw [sum_cons]
    by_cases same : amount.currency = c
    next =>
      subst same
      refine ⟨m + n, ?_⟩
      rw [if_pos rfl, add_mul, others, Nat.cast_add, ← units, Amount.units]
    next => exact ⟨n, by rw [if_neg same, zero_add, others]⟩

theorem sum_nonneg (whole : ∀ amount ∈ amounts, amount.Whole) (c : Currency) :
    0 ≤ sum amounts c := by
  have power : (0 : ℚ) < 10 ^ c.places := by positivity
  obtain ⟨n, units⟩ := sum_whole whole c
  rw [← mul_nonneg_iff_of_pos_right power, units]
  exact Nat.cast_nonneg n

theorem Countable.first (countable : Countable (earlier ++ later)) : Countable earlier where
  whole amount member := countable.whole amount (List.mem_append_left _ member)
  inRange c := by
    have rest : 0 ≤ sum later c :=
      sum_nonneg (fun amount member => countable.whole amount (List.mem_append_right _ member)) c
    refine lt_of_le_of_lt ?_ (countable.inRange c)
    rw [sum_append]
    exact mul_le_mul_of_nonneg_right (le_add_of_nonneg_right rest) (by positivity)

theorem Countable.perm (countable : Countable earlier) (same : later.Perm earlier) :
    Countable later where
  whole amount member := countable.whole amount (same.mem_iff.1 member)
  inRange c := by
    rw [sum_perm same]
    exact countable.inRange c

theorem Countable.exists_sum (countable : Countable amounts) (c : Currency) :
    ∃ d : Decimal, d.toRat = sum amounts c := by
  have power : (10 : ℚ) ^ c.places ≠ 0 := by positivity
  obtain ⟨n, units⟩ := sum_whole countable.whole c
  have inRange := countable.inRange c
  rw [units] at inRange
  obtain ⟨d, value⟩ := Amount.exists_difference (m := n) (n := 0) (Amount.places_le c)
    (by exact_mod_cast inRange) (by decide)
  refine ⟨d, ?_⟩
  rw [value, ← units, Nat.cast_zero, zero_div, sub_zero, mul_div_cancel_right₀ _ power]

def Correct (totals : Totals) (amounts : List Amount) : Prop :=
  ∀ c, (totals c).map Decimal.toRat =
    if c ∈ amounts.map Amount.currency then some (sum amounts c) else none

theorem empty_correct : empty.Correct [] := fun _ => rfl

theorem Correct.held (correct : totals.Correct amounts) (c : Currency) :
    (totals.held c).toRat = sum amounts c := by
  have stated := correct c
  unfold Totals.held
  split at stated
  next =>
    obtain ⟨v, found, value⟩ := Option.map_eq_some_iff.1 stated
    rw [found, Option.getD_some, value]
  next absent =>
    rw [Option.map_eq_none_iff.1 stated, sum_of_absent absent]
    exact Decimal.toRat_zero

theorem add_correct (correct : totals.Correct earlier)
    (countable : Countable (earlier ++ [amount])) :
    ∃ next, totals.add amount = .ok next ∧ next.Correct (earlier ++ [amount]) := by
  have total : sum (earlier ++ [amount]) amount.currency =
      (totals.held amount.currency).toRat + amount.value.toRat := by
    rw [sum_append, sum_cons, if_pos rfl, sum_nil, add_zero, correct.held]
  obtain ⟨e, value⟩ := countable.exists_sum amount.currency
  rw [total] at value
  obtain ⟨d, exact, value⟩ := Decimal.add?_exact value
  obtain ⟨-, large⟩ | ⟨v, found, added⟩ := totals.add_cases amount
  next =>
    rw [← Decimal.add?_eq_none_iff, exact] at large
    cases large
  next =>
    cases exact.symm.trans found
    refine ⟨_, added, fun c => ?_⟩
    by_cases same : c = amount.currency
    next =>
      subst same
      rw [total, ← value]
      simp
    next =>
      have other : amount.currency ≠ c := Ne.symm same
      rw [if_neg same, correct c, sum_append, sum_cons, if_neg other, sum_nil]
      simp [same]

theorem addAll_correct (correct : totals.Correct earlier)
    (countable : Countable (earlier ++ amounts)) :
    ∃ last, totals.addAll amounts = .ok last ∧ last.Correct (earlier ++ amounts) := by
  induction amounts generalizing totals earlier with
  | nil => exact ⟨totals, rfl, by rwa [List.append_nil]⟩
  | cons amount rest ih =>
    rw [List.append_cons] at countable ⊢
    obtain ⟨next, added, correct⟩ := add_correct correct countable.first
    obtain ⟨last, more, correct⟩ := ih correct countable
    exact ⟨last, by rw [addAll_cons, added]; exact more, correct⟩

theorem Countable.summed (countable : Countable amounts) :
    ∃ totals, empty.addAll amounts = .ok totals ∧ totals.Correct amounts :=
  addAll_correct empty_correct countable

end MultiWallet.Totals
