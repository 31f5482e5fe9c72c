import MultiWallet.Proofs.Coin.Selection

set_option autoImplicit false

namespace MultiWallet.Coin

variable {currency : Currency}

def values (coins : List Coin) : List UInt64 := coins.map (·.value)

@[simp] theorem values_cons (coin : Coin) (coins : List Coin) :
    values (coin :: coins) = coin.value :: values coins := rfl

@[simp] theorem values_append (a b : List Coin) : values (a ++ b) = values a ++ values b :=
  List.map_append

@[simp] theorem length_values (coins : List Coin) : (values coins).length = coins.length :=
  List.length_map _

/-- What a selection comes to, whichever coins of a value it takes. -/
structure Terms where
  values : List UInt64
  change : Option UInt64
  fee : UInt64
deriving DecidableEq, Repr

def Selection.terms (s : Selection) : Terms :=
  { values := Coin.values s.inputs, change := s.change, fee := s.fee }

theorem values_largestFirst {a b : List Coin} (perm : a.Perm b) :
    values (largestFirst a) = values (largestFirst b) := by
  have sorted (coins : List Coin) : (values (largestFirst coins)).Pairwise fun x y => y ≤ x :=
    List.pairwise_map.2 ((largestFirst_sorted coins).imp UInt64.le_iff_toNat_le.2)
  have same : (values (largestFirst a)).Perm (values (largestFirst b)) :=
    ((largestFirst_perm a).trans (perm.trans (largestFirst_perm b).symm)).map _
  exact same.eq_of_pairwise (fun _ _ _ _ le ge => UInt64.le_antisymm ge le) (sorted a) (sorted b)

variable {target rate total : Nat} {a b chosen other : List Coin}

-- The rules for a transaction of a size see no more of its inputs than their number.
theorem settle?_terms (same : values a = values b) :
    (settle? a total target rate).map Selection.terms =
      (settle? b total target rate).map Selection.terms := by
  have length : a.length = b.length := by simpa using congrArg List.length same
  simp only [settle?, withChange?, withoutChange?, length]
  rcases requirement? target b.length 2 rate with _ | two <;>
    rcases requirement? target b.length 1 rate with _ | one <;>
    simp only [Option.bind_eq_bind, Option.bind_none, Option.bind_some] <;>
    split_ifs <;> simp [Selection.terms, same]

theorem chooseFrom_terms (taken : values chosen = values other) (same : values a = values b) :
    (chooseFrom currency target rate chosen total a).map Selection.terms =
      (chooseFrom currency target rate other total b).map Selection.terms := by
  induction a generalizing b chosen other total with
  | nil =>
    obtain rfl : b = [] := List.map_eq_nil_iff.1 same.symm
    have length : chosen.length = other.length := by simpa using congrArg List.length taken
    simp only [chooseFrom, length]
  | cons coin rest ih =>
    obtain ⟨twin, others, rfl, value, same⟩ := List.map_eq_cons_iff.1 same.symm
    have taken : values (chosen ++ [coin]) = values (other ++ [twin]) := by
      rw [values_append, values_append, taken, values_cons, values_cons, value]
    simp only [chooseFrom, value]
    split
    next inRange =>
      have settled :
          (settle? (chosen ++ [coin]) (total + coin.value.toNat) target rate).map Selection.terms =
            (settle? (other ++ [twin]) (total + coin.value.toNat) target rate).map Selection.terms :=
        settle?_terms taken
      cases first : settle? (chosen ++ [coin]) (total + coin.value.toNat) target rate with
      | none =>
        rw [first, Option.map_none, eq_comm, Option.map_eq_none_iff] at settled
        rw [settled]
        exact ih taken same.symm
      | some s =>
        rw [first, Option.map_some, eq_comm, Option.map_eq_some_iff] at settled
        obtain ⟨t, second, terms⟩ := settled
        rw [second]
        exact congrArg Except.ok terms.symm
    next => rfl

/-- Whatever the order of the listing, a selection fails alike, or succeeds with inputs of the same
values, the same change and the same fee; and sweeping leaves as much. -/
theorem select_perm {a b : List Coin} (perm : a.Perm b) (target rate : UInt64)
    (currency : Currency) :
    (select a target rate currency).map Selection.terms =
        (select b target rate currency).map Selection.terms ∧
      sweep a rate = sweep b rate := by
  refine ⟨chooseFrom_terms rfl (values_largestFirst perm), ?_⟩
  simp only [sweep, totalValue_perm perm, perm.length_eq, perm.isEmpty_eq]

theorem select_perm_twoCoins :
    (select twoCoins.reverse 100000 2 .bch).map Selection.terms =
        .ok { values := [60000, 60000], change := some 19252, fee := 748 } ∧
      sweep twoCoins.reverse 2 = 119320 := by
  have sorted : largestFirst twoCoins = twoCoins := List.mergeSort_of_pairwise (by decide)
  obtain ⟨same, left⟩ := select_perm (List.reverse_perm twoCoins) 100000 2 .bch
  rw [same, left, select, sorted]
  exact ⟨rfl, by decide⟩

end MultiWallet.Coin
