set_option autoImplicit false

namespace MultiWallet.Text

def hexDigitOf (n : Nat) : Char := (Nat.toDigits 16 n).headD '0'

def hexOfByte (b : UInt8) : List Char := [hexDigitOf (b.toNat / 16), hexDigitOf (b.toNat % 16)]

def hexOfBytes (bytes : List UInt8) : String := String.ofList (bytes.flatMap hexOfByte)

def hexValueOf? (c : Char) : Option Nat :=
  if '0' ≤ c ∧ c ≤ '9' then some (c.toNat - '0'.toNat)
  else if 'a' ≤ c ∧ c ≤ 'f' then some (c.toNat - 'a'.toNat + 10)
  else if 'A' ≤ c ∧ c ≤ 'F' then some (c.toNat - 'A'.toNat + 10)
  else none

end MultiWallet.Text
