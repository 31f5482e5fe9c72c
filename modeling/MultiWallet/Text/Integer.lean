set_option autoImplicit false

namespace MultiWallet.Text

inductive IntegerError where
  | empty
  | invalidDigit
  | tooLarge
  | tooSmall
deriving DecidableEq, Repr

def IntegerError.message : IntegerError → String
  | .empty => "cannot parse integer from empty string"
  | .invalidDigit => "invalid digit found in string"
  | .tooLarge => "number too large to fit in target type"
  | .tooSmall => "number too small to fit in target type"

def decimalDigit? (c : Char) : Option Nat :=
  if '0' ≤ c ∧ c ≤ '9' then some (c.toNat - '0'.toNat) else none

def readDigits (limit : Nat) (beyond : IntegerError) (n : Nat) :
    List Char → Except IntegerError Nat
  | [] => .ok n
  | c :: rest =>
    match decimalDigit? c with
    | none => .error .invalidDigit
    | some d =>
      if n * 10 + d ≤ limit then readDigits limit beyond (n * 10 + d) rest else .error beyond

theorem readDigits_le {limit n m : Nat} {beyond : IntegerError} {text : List Char}
    (hn : n ≤ limit) (h : readDigits limit beyond n text = .ok m) : m ≤ limit := by
  induction text generalizing n with
  | nil =>
    simp only [readDigits, Except.ok.injEq] at h
    omega
  | cons c rest ih =>
    simp only [readDigits] at h
    split at h
    · cases h
    · split at h
      next hle => exact ih hle h
      · cases h

def readUnsigned (limit : Nat) : List Char → Except IntegerError Nat
  | [] => .error .empty
  | ['+'] => .error .invalidDigit
  | '+' :: rest => readDigits limit .tooLarge 0 rest
  | text => readDigits limit .tooLarge 0 text

def readSigned (limit : Nat) : List Char → Except IntegerError Int
  | [] => .error .empty
  | ['+'] | ['-'] => .error .invalidDigit
  | '-' :: rest => (readDigits (limit + 1) .tooSmall 0 rest).map fun n => -(n : Int)
  | '+' :: rest => (readDigits limit .tooLarge 0 rest).map fun n => (n : Int)
  | text => (readDigits limit .tooLarge 0 text).map fun n => (n : Int)

theorem readSigned_le {limit : Nat} {n : Int} {text : List Char}
    (h : readSigned limit text = .ok n) : n ≤ limit := by
  have read {digits : Except IntegerError Nat} {f : Int → Int}
      (found : (do return ((← digits : Nat) : Int)).map f = .ok n) :
      ∃ m, digits = .ok m ∧ f m = n := by
    cases digits with
    | error e => cases found
    | ok m =>
      cases found
      exact ⟨m, rfl, rfl⟩
  unfold readSigned at h
  split at h
  next => cases h
  next => cases h
  next => cases h
  next =>
    obtain ⟨m, -, rfl⟩ := read h
    omega
  next =>
    obtain ⟨m, found, rfl⟩ := read h
    exact_mod_cast readDigits_le (Nat.zero_le _) found
  next =>
    obtain ⟨m, found, rfl⟩ := read h
    exact_mod_cast readDigits_le (Nat.zero_le _) found

end MultiWallet.Text
