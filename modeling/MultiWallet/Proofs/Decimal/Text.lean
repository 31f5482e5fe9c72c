import MultiWallet.Decimal.Text
import MultiWallet.Proofs.Decimal.Value
import MultiWallet.Text.Blank

set_option autoImplicit false

namespace MultiWallet

theorem Text.isBlank_of_isDigit {c : Char} (digit : c.isDigit = true) :
    Text.isBlank c = false := by
  simp only [Char.isDigit, Bool.and_eq_true, decide_eq_true_eq, ge_iff_le,
    UInt32.le_iff_toNat_le] at digit
  have lower : 48 ≤ c.toNat := digit.1
  have upper : c.toNat ≤ 57 := digit.2
  simp only [Text.isBlank, Bool.or_eq_false_iff, Bool.and_eq_false_iff, decide_eq_false_iff_not,
    beq_eq_false_iff_ne]
  omega

theorem Text.trim_of_forall {text : List Char} (solid : ∀ c ∈ text, Text.isBlank c = false) :
    Text.trim text = text := by
  have kept (text : List Char) (solid : ∀ c ∈ text, Text.isBlank c = false) :
      text.dropWhile Text.isBlank = text := by
    cases text with
    | nil => rfl
    | cons c rest => rw [List.dropWhile_cons_of_neg (by simp [solid c])]
  rw [Text.trim, kept text solid, kept text.reverse (by simpa using solid), List.reverse_reverse]

namespace Decimal

theorem digitOf?_of_isDigit {c : Char} (digit : c.isDigit = true) :
    digitOf? c = some (c.toNat - '0'.toNat) := by
  have bounds : '0' ≤ c ∧ c ≤ '9' := by
    simpa [Char.isDigit, Char.le_def] using digit
  rw [digitOf?, if_pos bounds]

theorem isExponentMark_of_isDigit {c : Char} (digit : c.isDigit = true) :
    isExponentMark c = false := by
  simp only [isExponentMark, Bool.or_eq_false_iff, beq_eq_false_iff_ne]
  constructor <;> rintro rfl <;> simp [Char.isDigit] at digit

theorem le_ofDigitChars (text : List Char) (n : Nat) : n ≤ Nat.ofDigitChars 10 text n := by
  induction text generalizing n with
  | nil => simp
  | cons c rest ih =>
    rw [Nat.ofDigitChars_cons]
    exact Nat.le_trans (by omega) (ih _)

namespace Reading

theorem read_digit {r : Reading} {c : Char} (rest : List Char) (whole : r.point = false)
    (digit : c.isDigit = true) :
    (∃ next : Reading, r.read (c :: rest) = next.read rest ∧ next.negative = r.negative ∧
      next.point = false ∧ next.started = true ∧
      next.digits = 10 * r.digits + (c.toNat - '0'.toNat) ∧ next.places = r.places) ∨
    2 ^ 96 ≤ 10 * r.digits + (c.toNat - '0'.toNat) ∧
      r.read (c :: rest) = .error .tooManyDigits := by
  rw [Nat.mul_comm 10, read, dif_neg (by simp [whole]), digitOf?_of_isDigit digit]
  simp only
  split
  next => exact .inl ⟨_, rfl, rfl, whole, rfl, rfl, by simp [whole]⟩
  next large => exact .inr ⟨Nat.le_of_not_lt large, by simp [whole]⟩

theorem read_digits {r : Reading} {text : List Char} (whole : r.point = false)
    (digits : ∀ c ∈ text, c.isDigit = true) (some : r.started = true ∨ text ≠ []) :
    (∃ d, r.read text = .ok d ∧ d.negative = (r.negative && d.coefficient != 0) ∧
      d.coefficient = Nat.ofDigitChars 10 text r.digits ∧ d.scale = r.places) ∨
    2 ^ 96 ≤ Nat.ofDigitChars 10 text r.digits ∧ r.read text = .error .tooManyDigits := by
  induction text generalizing r with
  | nil =>
    have started : r.started = true := by simpa using some
    have ended : r.read [] = .ok (make r.negative r.digits r.digits_lt r.places r.places_le) := by
      rw [read, finish, if_pos started]
    exact .inl ⟨_, ended, rfl, rfl, rfl⟩
  | cons c rest ih =>
    rw [Nat.ofDigitChars_cons]
    rcases read_digit rest whole (digits c (by simp)) with
      ⟨next, step, sign, still, started, value, places⟩ | ⟨large, step⟩
    · have := ih still (fun c member => digits c (by simp [member])) (.inl started)
      rwa [step, ← value, ← places, ← sign]
    · exact .inr ⟨Nat.le_trans large (le_ofDigitChars _ _), step⟩

end Reading

theorem read_of_unmarked {text : List Char} (unmarked : ∀ c ∈ text, isExponentMark c = false) :
    read text = readPlain text := by
  have whole : text.dropWhile (!isExponentMark ·) = [] := by
    rw [List.dropWhile_eq_nil_iff]
    intro c member
    simp [unmarked c member]
  rw [read, whole]

theorem read_toDigits (n : Nat) :
    (∃ fits : n < 2 ^ 96, read (Nat.toDigits 10 n) = .ok (ofNat n fits)) ∨
      2 ^ 96 ≤ n ∧ read (Nat.toDigits 10 n) = .error .tooManyDigits := by
  have digits : ∀ c ∈ Nat.toDigits 10 n, c.isDigit = true := fun _ =>
    Nat.isDigit_of_mem_toDigits (by decide) (by decide)
  have plain : read (Nat.toDigits 10 n) = (start false).read (Nat.toDigits 10 n) := by
    rw [read_of_unmarked fun c member => isExponentMark_of_isDigit (digits c member)]
    cases text : Nat.toDigits 10 n with
    | nil => exact absurd text Nat.toDigits_ne_nil
    | cons c rest =>
      have digit := digits c (by simp [text])
      have notMinus : c ≠ '-' := by
        rintro rfl
        cases digit
      have notPlus : c ≠ '+' := by
        rintro rfl
        cases digit
      simp [readPlain, notMinus, notPlus]
  have value : Nat.ofDigitChars 10 (Nat.toDigits 10 n) (start false).digits = n :=
    Nat.ofDigitChars_ten_toDigits
  have outcome := Reading.read_digits (r := start false) rfl digits (.inr Nat.toDigits_ne_nil)
  rw [← plain, value] at outcome
  rcases outcome with ⟨d, ok, sign, coefficient, scale⟩ | large
  · rcases d with ⟨negative, digits, places, fits, _⟩
    obtain rfl : digits = n := coefficient
    obtain rfl : places = 0 := scale
    obtain rfl : negative = false := sign
    exact .inl ⟨fits, ok⟩
  · exact .inr large

theorem read_minus_toDigits {n : Nat} (fits : n < 2 ^ 96) :
    ∃ d, read ('-' :: Nat.toDigits 10 n) = .ok d ∧ d.negative = (n != 0) ∧ d.coefficient = n ∧
      d.scale = 0 := by
  have digits : ∀ c ∈ Nat.toDigits 10 n, c.isDigit = true := fun _ =>
    Nat.isDigit_of_mem_toDigits (by decide) (by decide)
  have plain : read ('-' :: Nat.toDigits 10 n) = (start true).read (Nat.toDigits 10 n) := by
    rw [read_of_unmarked, readPlain]
    intro c member
    rcases List.mem_cons.1 member with rfl | digit
    · rfl
    · exact isExponentMark_of_isDigit (digits c digit)
  have value : Nat.ofDigitChars 10 (Nat.toDigits 10 n) (start true).digits = n :=
    Nat.ofDigitChars_ten_toDigits
  have outcome := Reading.read_digits (r := start true) rfl digits (.inr Nat.toDigits_ne_nil)
  rw [← plain, value] at outcome
  obtain ⟨d, ok, sign, coefficient, scale⟩ | ⟨large, -⟩ := outcome
  · refine ⟨d, ok, ?_, coefficient, scale⟩
    rw [sign, coefficient]
    rfl
  · omega

theorem toText_whole {d : Decimal} (nonnegative : d.negative = false) (whole : d.scale = 0) :
    d.toText = toString d.coefficient := by
  simp [toText, write, nonnegative, whole, digitsOf, Nat.repr_eq_ofList_toDigits]

theorem toList_toText_whole {d : Decimal} (whole : d.scale = 0) :
    d.toText.toList =
      if d.negative then '-' :: Nat.toDigits 10 d.coefficient
      else Nat.toDigits 10 d.coefficient := by
  simp [toText, write, whole, digitsOf]

theorem ofString_toText_whole {d : Decimal} (whole : d.scale = 0) :
    ∃ e, ofString d.toText = .ok e ∧ e.scale = 0 ∧ e.toRat = d.toRat := by
  have same {e : Decimal} (sign : e.negative = (d.negative && d.coefficient != 0))
      (coefficient : e.coefficient = d.coefficient) (scale : e.scale = 0) : e.toRat = d.toRat := by
    rw [toRat, sign, coefficient, ratio_sign, scale, toRat, whole]
  rw [ofString, toList_toText_whole whole]
  cases sign : d.negative with
  | true =>
    obtain ⟨e, ok, negative, coefficient, scale⟩ := read_minus_toDigits d.coefficient_lt
    exact ⟨e, ok, scale, same (by rw [negative, sign, Bool.true_and]) coefficient scale⟩
  | false =>
    obtain ⟨fits, ok⟩ | ⟨large, -⟩ := read_toDigits d.coefficient
    · exact ⟨_, ok, rfl, same (by rw [sign, Bool.false_and]; rfl) rfl rfl⟩
    · exact absurd d.coefficient_lt (by omega)

theorem trim_toText_whole {d : Decimal} (whole : d.scale = 0) :
    Text.trim d.toText.toList = d.toText.toList := by
  apply Text.trim_of_forall
  rw [toList_toText_whole whole]
  have solid (c : Char) (member : c ∈ Nat.toDigits 10 d.coefficient) : Text.isBlank c = false :=
    Text.isBlank_of_isDigit (Nat.isDigit_of_mem_toDigits (by decide) (by decide) member)
  split
  next =>
    intro c member
    rcases List.mem_cons.1 member with rfl | digit
    · rfl
    · exact solid c digit
  next => exact solid

end Decimal

end MultiWallet
