import MultiWallet.Proofs.Chain.Evm
import MultiWallet.Proofs.Chain.Inquiry
import MultiWallet.Proofs.Decimal.Overflow

set_option autoImplicit false

namespace MultiWallet

open Dialogue

section Sequences

variable {α β : Type}

theorem Checked.ok_bind (a : α) (f : α → Checked β) : ((.ok a : Checked α) >>= f) = f a := rfl

theorem Checked.Bounded.bind_overflow_iff {r : Checked α} {f : α → Checked β}
    (bounded : r.Bounded) :
    (r >>= f) = .error .overflow ↔ ∃ a, r = .ok a ∧ f a = .error .overflow := by
  rcases r with halt | a
  · exact iff_of_false bounded.of_error (by simp)
  · simp [Checked.ok_bind]

theorem orOverflow_bind_overflow_iff {o : Option α} {f : α → Checked β}
    (bounded : ∀ a, (f a).Bounded) : (orOverflow o >>= f) = .error .overflow ↔ o = none := by
  cases o with
  | none => exact iff_of_true rfl rfl
  | some a => exact iff_of_false (bounded a) (by simp)

theorem Dialogue.run_bind_overflow_iff {d : Dialogue α} {f : α → Dialogue β} {oracle : Oracle}
    {s : Session} :
    ((d >>= f).run oracle s).1 = .error .overflow ↔
      (d.run oracle s).1 = .error .overflow ∨
        ∃ a t, d.run oracle s = (.ok a, t) ∧ ((f a).run oracle t).1 = .error .overflow := by
  rcases run : d.run oracle s with ⟨halt | a, t⟩
  · simp [run_bind_error run]
  · simp [run_bind_ok run]

theorem Dialogue.Bounded.bind_overflow_iff {d : Dialogue α} {f : α → Dialogue β} {oracle : Oracle}
    {s : Session} (bounded : d.Bounded) :
    ((d >>= f).run oracle s).1 = .error .overflow ↔
      ∃ a t, d.run oracle s = (.ok a, t) ∧ ((f a).run oracle t).1 = .error .overflow := by
  rw [run_bind_overflow_iff]
  exact or_iff_right (bounded oracle s)

end Sequences

theorem Amount.bounded_ofMinorText (currency : Currency) (text : String) :
    (Amount.ofMinorText currency text).Bounded := by
  unfold ofMinorText
  split
  · exact Checked.bounded_ok _
  · exact Checked.bounded_fail _

theorem Amount.bounded_minor (a : Amount) : a.minor.Bounded := by
  unfold minor
  split
  · exact Checked.bounded_ok _
  · exact Checked.bounded_fail _

theorem Amount.bounded_remainder (a b : Amount) : (a.remainder b).Bounded := by
  have subtracted : (a.sub b).Bounded := by
    unfold sub requireCurrency
    refine Checked.Bounded.bind ?_ fun _ => ?_
    · split
      · exact Checked.bounded_ok _
      · exact Checked.bounded_fail _
    · split
      · exact Checked.bounded_ok _
      · exact Checked.bounded_fail _
  exact subtracted.bind fun rest => Checked.bounded_ok _

theorem Indexer.maximum_bounded (x : Indexer) (address : String) (rate : Decimal) :
    (x.maximum address rate).Bounded :=
  (x.coins_inquires address).stays.bind fun _ => bounded_ofChecked (Checked.bounded_ok _)

namespace Evm

variable {x : Evm} {rate : Decimal} {account : String} {oracle : Oracle} {s : Session}

def Overflows (rate : Decimal) (gasLimit : UInt64) : Prop :=
  2 ^ 96 ≤ |rate.toRat| * 10 ^ 9 ∨ 2 ^ 96 ≤ ⌊|rate.toRat| * 10 ^ 9⌋₊ * gasLimit.toNat

theorem gasPrice_cases (rate : Decimal) :
    2 ^ 96 ≤ |rate.toRat| * 10 ^ 9 ∧ gasPrice rate = .error .overflow ∨
      |rate.toRat| * 10 ^ 9 < 2 ^ 96 ∧ ∃ price, gasPrice rate = .ok price ∧ price.scale = 0 ∧
        price.coefficient = ⌊|rate.toRat| * 10 ^ 9⌋₊ := by
  have refused : rate.mul? weiPerGwei = none ↔ 2 ^ 96 ≤ |rate.toRat| * 10 ^ 9 :=
    Decimal.mul?_powerOfTen_eq_none_iff (k := 9)
  unfold gasPrice
  cases product : rate.mul? weiPerGwei with
  | none => exact .inl ⟨refused.1 product, rfl⟩
  | some d =>
    have value : d.toRat = rate.toRat * 10 ^ 9 := Decimal.toRat_mul?_powerOfTen (k := 9) product
    have size : |rate.toRat| * 10 ^ 9 = d.coefficient / 10 ^ d.scale := by
      rw [← Decimal.abs_toRat, value, abs_mul, abs_of_pos (by positivity : (0 : ℚ) < 10 ^ 9)]
    refine .inr ⟨?_, d.trunc, rfl, rfl, ?_⟩
    · rw [← not_le, ← refused, product]
      simp
    · have floor := Nat.floor_div_eq_div (K := ℚ) d.coefficient (10 ^ d.scale)
      push_cast at floor
      rw [size, floor]
      rfl

theorem transferCost_overflow_iff :
    x.transferCost rate = .error .overflow ↔ Overflows rate x.gasLimit := by
  unfold transferCost
  obtain ⟨large, priced⟩ | ⟨inRange, price, priced, whole, coefficient⟩ := gasPrice_cases rate
  · rw [priced]
    exact iff_of_true rfl (.inl large)
  · have refused : price.mul? (.ofUInt64 x.gasLimit) = none ↔
        2 ^ 96 ≤ price.coefficient * x.gasLimit.toNat := Decimal.mul?_whole_eq_none_iff whole rfl
    rw [Overflows, or_iff_right inRange.not_ge, ← coefficient, ← refused, priced,
      Checked.ok_bind]
    exact orOverflow_bind_overflow_iff fun wei => Amount.bounded_ofMinorText _ _

theorem address_bounded (x : Evm) (text : String) : (x.address text).Bounded := by
  unfold address
  split
  · exact Checked.bounded_ok _
  · exact Checked.bounded_fail _

theorem balance_bounded (x : Evm) (account : String) : (x.balance account).Bounded :=
  (bounded_ofChecked (x.address_bounded account)).bind fun _ =>
    (JsonRpc.call_bounded _ _ _ _ _).bind fun _ =>
      bounded_ofChecked (Amount.bounded_ofMinorText _ _)

theorem maximum_overflow_iff :
    ((x.maximum account rate).run oracle s).1 = .error .overflow ↔
      (∃ b t, (x.balance account).run oracle s = (.ok b, t)) ∧ Overflows rate x.gasLimit := by
  rw [maximum, (x.balance_bounded account).bind_overflow_iff]
  have costs (b : Amount) (t : Session) :
      ((do
        let cost ← x.transferCost rate
        ofChecked (b.remainder cost) : Dialogue Amount).run oracle t).1 = .error .overflow ↔
        Overflows rate x.gasLimit := by
    rw [← transferCost_overflow_iff]
    cases x.transferCost rate with
    | error halt => simp [run_bind]
    | ok cost => exact iff_of_false (Amount.bounded_remainder b cost) (by simp)
  simp only [costs]
  constructor
  · rintro ⟨b, t, found, overflows⟩
    exact ⟨⟨b, t, found⟩, overflows⟩
  · rintro ⟨⟨b, t, found⟩, overflows⟩
    exact ⟨b, t, found, overflows⟩

end Evm

namespace StellarAccount

variable {a : StellarAccount} {rate : Decimal}

def Overflows (a : StellarAccount) : Prop :=
  ∃ native, a.nativeBalance = .ok native ∧
    (2 ^ 32 ≤ 2 + a.subentries.toNat ∨
      ∃ minimum, a.minimumBalance = .ok minimum ∧ native.sub? minimum = none)

def reserved (a : StellarAccount) : ℚ := (2 + a.subentries.toNat) / 2

theorem minimumBalance_exact (inRange : 2 + a.subentries.toNat < 2 ^ 32) :
    ∃ minimum, a.minimumBalance = .ok minimum ∧ minimum.toRat = a.reserved := by
  have short : (2 + a.subentries.toNat) * 5 < 2 ^ 96 := by omega
  have same : Decimal.toRat { negative := false, coefficient := (2 + a.subentries.toNat) * 5
                              scale := 1, coefficient_lt := short } =
      (Decimal.ofNat (2 + a.subentries.toNat) (by omega)).toRat * reserve.toRat :=
    (Decimal.ratio_mul false false _ _ 0 1).symm
  obtain ⟨d, product, value⟩ := Decimal.mul?_exact same
  refine ⟨d, ?_, ?_⟩
  · unfold minimumBalance
    simp only
    rw [if_pos inRange, Decimal.ofNat?, dif_pos (by omega), Option.bind_some, product]
    rfl
  · have half : reserve.toRat = 1 / 2 := by norm_num [reserve, Decimal.toRat, Decimal.ratio]
    rw [value, Decimal.toRat_ofNat, half, reserved]
    push_cast
    ring

theorem minimumBalance_cases (a : StellarAccount) :
    2 ^ 32 ≤ 2 + a.subentries.toNat ∧ a.minimumBalance = .error .overflow ∨
      2 + a.subentries.toNat < 2 ^ 32 ∧
        ∃ minimum, a.minimumBalance = .ok minimum ∧ minimum.toRat = a.reserved := by
  rcases Nat.lt_or_ge (2 + a.subentries.toNat) (2 ^ 32) with inRange | large
  · exact .inr ⟨inRange, minimumBalance_exact inRange⟩
  · refine .inl ⟨large, ?_⟩
    unfold minimumBalance
    exact if_neg large.not_gt

theorem bounded_nativeBalance (a : StellarAccount) : a.nativeBalance.Bounded := by
  unfold nativeBalance
  split
  · exact Checked.bounded_ok _
  · split
    · exact Checked.bounded_ok _
    · exact Checked.bounded_fail _

theorem spendable_overflow_iff :
    Stellar.spendable a rate = .error .overflow ↔ a.Overflows := by
  rw [Stellar.spendable, a.bounded_nativeBalance.bind_overflow_iff]
  refine exists_congr fun native => and_congr_right fun _ => ?_
  obtain ⟨large, kept⟩ | ⟨inRange, minimum, kept, -⟩ := a.minimumBalance_cases
  · rw [kept]
    exact iff_of_true rfl (.inl large)
  · rw [or_iff_right inRange.not_ge, kept, Checked.ok_bind,
      orOverflow_bind_overflow_iff fun value => Amount.bounded_remainder _ _]
    simp

end StellarAccount

theorem Stellar.maximum_overflow_iff {x : Stellar} {id : String} {rate : Decimal} {oracle : Oracle}
    {s : Session} :
    ((x.maximum id rate).run oracle s).1 = .error .overflow ↔
      ∃ a t, (x.server.account? id).run oracle s = (.ok (some a), t) ∧ a.Overflows := by
  rw [maximum, (x.server.account?_bounded id).bind_overflow_iff]
  constructor
  · rintro ⟨known, t, found, overflows⟩
    cases known with
    | none => cases overflows
    | some a => exact ⟨a, t, found, StellarAccount.spendable_overflow_iff.1 overflows⟩
  · rintro ⟨a, t, found, overflows⟩
    exact ⟨some a, t, found, StellarAccount.spendable_overflow_iff.2 overflows⟩

namespace ChainClient

def Overflows (chain : ChainClient) (account : String) (rate : Decimal) (oracle : Oracle)
    (s : Session) : Prop :=
  match chain with
  | .external _ _ | .indexer _ _ => False
  | .stellar server _ =>
    ∃ a t, (server.account? account).run oracle s = (.ok (some a), t) ∧ a.Overflows
  | .evm _ _ gasLimit =>
    (∃ b t, (chain.balance account).run oracle s = (.ok b, t)) ∧ Evm.Overflows rate gasLimit

theorem maximum_overflow_iff (chain : ChainClient) (account : String) (rate : Decimal)
    (oracle : Oracle) (s : Session) :
    ((chain.maximum account rate).run oracle s).1 = .error .overflow ↔
      chain.Overflows account rate oracle s := by
  cases chain with
  | external name currency =>
    have inquires := inquires_answer (c := .chainMaximum name account rate) fun reply => reply
    exact iff_of_false (inquires.stays oracle s) id
  | indexer currency base => exact iff_of_false (Indexer.maximum_bounded _ _ _ _ _) id
  | stellar server network => exact Stellar.maximum_overflow_iff
  | evm currency url gasLimit => exact Evm.maximum_overflow_iff

end ChainClient

end MultiWallet
