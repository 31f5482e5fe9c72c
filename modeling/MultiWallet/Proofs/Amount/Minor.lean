import MultiWallet.Proofs.Amount
import MultiWallet.Proofs.Decimal.Overflow

set_option autoImplicit false

namespace MultiWallet

theorem Text.trim_surrounded {before text after : List Char}
    (blankBefore : ∀ c ∈ before, Text.isBlank c = true)
    (blankAfter : ∀ c ∈ after, Text.isBlank c = true)
    (solid : ∀ c ∈ text, Text.isBlank c = false) (visible : text ≠ []) :
    Text.trim (before ++ text ++ after) = text := by
  have stops (l rest : List Char) (solid : ∀ c ∈ l, Text.isBlank c = false) (visible : l ≠ []) :
      (l ++ rest).dropWhile Text.isBlank = l ++ rest := by
    cases l with
    | nil => exact absurd rfl visible
    | cons c l => simp [solid c]
  have ends : text.reverse.dropWhile Text.isBlank = text.reverse := by
    simpa using stops text.reverse [] (by simpa using solid) (by simpa using visible)
  rw [Text.trim, List.append_assoc, List.dropWhile_append_of_pos blankBefore,
    stops text after solid visible, List.reverse_append,
    List.dropWhile_append_of_pos (by simpa using blankAfter), ends, List.reverse_reverse]

namespace Decimal

theorem mul?_negative_iff {a b d : Decimal} (product : a.mul? b = some d) :
    d.negative = true ↔ d.toRat < 0 := by
  have sign := mul?_sign product
  cases negative : d.negative with
  | false =>
    have := toRat_nonneg negative
    simp [this]
  | true =>
    rw [negative, eq_comm, Bool.and_eq_true, bne_iff_ne] at sign
    have positive : 0 < d.coefficient := Nat.pos_of_ne_zero (by simpa using sign.2)
    simp [toRat, ratio, negative, neg_div, positive]

theorem mul?_toNat? {a b d : Decimal} (product : a.mul? b = some d) :
    d.toNat? = if 0 ≤ d.toRat then some ⌊d.toRat⌋₊ else none := by
  split
  next nonnegative =>
    apply toNat?_eq_floor
    rw [← Bool.not_eq_true, mul?_negative_iff product, not_lt]
    exact nonnegative
  next negative =>
    rw [toNat?, if_pos ((mul?_negative_iff product).2 (not_le.1 negative))]

end Decimal

namespace Amount

variable {a : Amount} {n : Nat}

theorem holds_iff : a.Holds n ↔ a.units = n := by
  have nonzero : (10 : ℚ) ^ a.currency.places ≠ 0 := by positivity
  rw [Holds, units, eq_div_iff nonzero]

theorem scaled_eq_none_iff : a.value.mul? (unit a.currency) = none ↔ 2 ^ 96 ≤ |a.units| := by
  have power : (0 : ℚ) < 10 ^ a.currency.places := by positivity
  rw [unit, Decimal.mul?_powerOfTen_eq_none_iff, units, abs_mul, abs_of_pos power]

theorem minor_of_small (small : |a.units| < 2 ^ 96) :
    a.minor = if 0 ≤ a.units then .ok ⌊a.units⌋₊
      else fail (.invalidAmount (a.toText ++ " out of range")) := by
  cases scaled : a.value.mul? (unit a.currency) with
  | none => exact absurd small (scaled_eq_none_iff.1 scaled).not_gt
  | some d =>
    have value : d.toRat = a.units := Decimal.toRat_mul?_powerOfTen scaled
    rw [minor, scaled, Option.bind_some, Decimal.mul?_toNat? scaled, value]
    by_cases nonnegative : 0 ≤ a.units
    next => simp [nonnegative]
    next => simp [nonnegative]

theorem minor_of_large (large : 2 ^ 96 ≤ |a.units|) :
    a.minor = fail (.invalidAmount (a.toText ++ " out of range")) := by
  rw [minor, scaled_eq_none_iff.2 large]
  rfl

/-- What is below zero cannot be counted, nor what has more smallest units than a coefficient can
hold. All else is counted, and only what is finer than a smallest unit is left out. -/
theorem minor_eq_truncated (a : Amount) :
    a.minor = if 0 ≤ a.units ∧ ⌊a.units⌋₊ < 2 ^ 96 then .ok ⌊a.units⌋₊
      else fail (.invalidAmount (a.toText ++ " out of range")) := by
  by_cases nonnegative : 0 ≤ a.units
  next =>
    have inRange : ⌊a.units⌋₊ < 2 ^ 96 ↔ |a.units| < 2 ^ 96 := by
      rw [Nat.floor_lt nonnegative, abs_of_nonneg nonnegative]
      norm_cast
    by_cases small : |a.units| < 2 ^ 96
    next => rw [minor_of_small small, if_pos nonnegative, if_pos ⟨nonnegative, inRange.2 small⟩]
    next =>
      rw [minor_of_large (not_lt.1 small), if_neg]
      exact fun counted => small (inRange.1 counted.2)
  next =>
    rw [if_neg fun counted => nonnegative counted.1]
    by_cases small : |a.units| < 2 ^ 96
    next => rw [minor_of_small small, if_neg nonnegative]
    next => rw [minor_of_large (not_lt.1 small)]

example :
    minor { currency := .btc
            value := { negative := false, coefficient := 123456789, scale := 9 } } =
      .ok 12345678 := by decide

theorem minor_of_whole (whole : a.Holds n) (fits : n < 2 ^ 96) : a.minor = .ok n := by
  have units : a.units = n := holds_iff.1 whole
  have least : 0 ≤ a.units := by
    rw [units]
    exact Nat.cast_nonneg n
  have most : |a.units| < 2 ^ 96 := by
    rw [abs_of_nonneg least, units]
    exact_mod_cast fits
  rw [minor_of_small most, if_pos least, units, Nat.floor_natCast]

theorem ofMinorText_of_trim {currency : Currency} {text other : String}
    (same : Text.trim text.toList = Text.trim other.toList)
    (read : ofMinorText currency other = .ok a) : ofMinorText currency text = .ok a := by
  unfold ofMinorText at read ⊢
  rw [same]
  split at read
  next => exact read
  next => cases read

theorem ofMinorText_surrounded (currency : Currency) (fits : n < 2 ^ 96) {before after : List Char}
    (blankBefore : ∀ c ∈ before, Text.isBlank c = true)
    (blankAfter : ∀ c ∈ after, Text.isBlank c = true) :
    ∃ a, ofMinorText currency (String.ofList (before ++ (toString n).toList ++ after)) = .ok a ∧
      a.currency = currency ∧ a.Holds n := by
  have digits : (toString n).toList = Nat.toDigits 10 n := by
    rw [Nat.toString_eq_repr, Nat.toList_repr]
  have solid : ∀ c ∈ (toString n).toList, Text.isBlank c = false := by
    intro c member
    rw [digits] at member
    exact Text.isBlank_of_isDigit (Nat.isDigit_of_mem_toDigits (by decide) (by decide) member)
  have visible : (toString n).toList ≠ [] := by
    rw [digits]
    exact Nat.toDigits_ne_nil
  have same : Text.trim (String.ofList (before ++ (toString n).toList ++ after)).toList =
      Text.trim (toString n).toList := by
    rw [String.toList_ofList, Text.trim_surrounded blankBefore blankAfter solid visible,
      Text.trim_of_forall solid]
  obtain ⟨a, read, -, currency, holds⟩ | ⟨large, -⟩ := ofMinorText_eq currency n
  next => exact ⟨a, ofMinorText_of_trim same read, currency, holds⟩
  next => omega

/-- Nothing is lost or gained on the way from smallest units to an amount and back, whether they
come as a number or as text. -/
theorem minor_restored (currency : Currency) :
    (∀ n : UInt64, (ofMinor currency n).Holds n.toNat ∧ (ofMinor currency n).minor = .ok n.toNat) ∧
      ∀ n < 2 ^ 96, ∀ before after : List Char, (∀ c ∈ before, Text.isBlank c = true) →
        (∀ c ∈ after, Text.isBlank c = true) →
        ∃ a, ofMinorText currency (String.ofList (before ++ (toString n).toList ++ after)) = .ok a ∧
          a.currency = currency ∧ a.Holds n ∧ a.minor = .ok n := by
  constructor
  next =>
    intro n
    have holds : (ofMinor currency n).Holds n.toNat := toRat_ofMinor currency n
    exact ⟨holds, minor_of_whole holds (n.toNat_lt.trans (by decide))⟩
  next =>
    intro n fits before after blankBefore blankAfter
    obtain ⟨a, read, same, holds⟩ :=
      ofMinorText_surrounded currency fits blankBefore blankAfter
    exact ⟨a, read, same, holds, minor_of_whole holds fits⟩

theorem minor_restored_mostWei :
    2 ^ 96 - 1 < 2 ^ 96 ∧ Text.isBlank ' ' = true ∧ Text.isBlank '\n' = true ∧
      ∃ a, ofMinorText .eth " 79228162514264337593543950335\n" = .ok a ∧ a.currency = .eth ∧
        a.Holds (2 ^ 96 - 1) ∧ a.minor = .ok (2 ^ 96 - 1) := by
  have surrounded :
      String.ofList ([' '] ++ (toString (2 ^ 96 - 1)).toList ++ ['\n']) =
        " 79228162514264337593543950335\n" := by decide
  have space : Text.isBlank ' ' = true := by decide
  have line : Text.isBlank '\n' = true := by decide
  refine ⟨by decide, space, line, ?_⟩
  rw [← surrounded]
  apply (minor_restored .eth).2 (2 ^ 96 - 1) (by decide) [' '] ['\n']
  next => simp [space]
  next => simp [line]

end Amount

end MultiWallet
