import MultiWallet.Decimal.Binary
import MultiWallet.Json.Decode

set_option autoImplicit false

namespace MultiWallet.Json

def Number.vanishes (n : Number) : Bool :=
  n.digits == 0 || decide (n.exponent + (Nat.toDigits 10 n.digits).length ≤ -324)

def Number.toDouble (n : Number) : Decimal.Double :=
  if n.vanishes then .ofRatio 0 1
  else
    let (num, den) := Decimal.Double.scaleBy 10 n.digits 1 n.exponent
    .ofRatio num den

def Number.isWord (n : Number) : Bool :=
  n.whole && if n.negative then 0 < n.digits && n.digits ≤ 2 ^ 63 else n.digits < 2 ^ 64

def Number.signed (n : Number) (digits : List Char) : List Char :=
  if n.negative then '-' :: digits else digits

def Number.toDecimalText (n : Number) : List Char :=
  n.signed (if n.isWord then Nat.toDigits 10 n.digits else n.toDouble.shortest.write)

def Number.toText (n : Number) : String :=
  String.ofList
    (n.signed (if n.isWord then Nat.toDigits 10 n.digits else n.toDouble.shortest.writeFloating))

def asDecimal : Json → Option Decimal
  | .string s => (Decimal.ofString s).toOption
  | .number n => (Decimal.read n.toDecimalText).toOption
  | _ => none

end MultiWallet.Json
