set_option autoImplicit false

namespace MultiWallet.Text

structure Lead where
  bits : Nat
  following : Nat
  low : UInt8 := 0x80
  high : UInt8 := 0xbf

-- The bounds of the second byte shut out overlong forms, surrogates and what lies beyond.
def lead? (b : UInt8) : Option Lead :=
  if b < 0x80 then some { bits := b.toNat, following := 0 }
  else if b < 0xc2 then none
  else if b < 0xe0 then some { bits := b.toNat - 0xc0, following := 1 }
  else if b = 0xe0 then some { bits := 0, following := 2, low := 0xa0 }
  else if b = 0xed then some { bits := 0xd, following := 2, high := 0x9f }
  else if b < 0xf0 then some { bits := b.toNat - 0xe0, following := 2 }
  else if b = 0xf0 then some { bits := 0, following := 3, low := 0x90 }
  else if b < 0xf4 then some { bits := b.toNat - 0xf0, following := 3 }
  else if b = 0xf4 then some { bits := 4, following := 3, high := 0x8f }
  else none

def readFollowing (value : Nat) :
    (count : Nat) → (low high : UInt8) → List UInt8 → Option Char × List UInt8
  | 0, _, _, rest => (some (Char.ofNat value), rest)
  | _ + 1, _, _, [] => (none, [])
  | count + 1, low, high, b :: rest =>
    if low ≤ b ∧ b ≤ high then
      readFollowing (value * 64 + (b.toNat - 0x80)) count 0x80 0xbf rest
    else (none, b :: rest)

def charactersWithin : Nat → List UInt8 → List (Option Char)
  | 0, _ => []
  | _ + 1, [] => []
  | fuel + 1, b :: rest =>
    match lead? b with
    | none => none :: charactersWithin fuel rest
    | some lead =>
      let (c, rest) := readFollowing lead.bits lead.following lead.low lead.high rest
      c :: charactersWithin fuel rest

def characters (bytes : List UInt8) : List (Option Char) := charactersWithin bytes.length bytes

def ofUtf8? (bytes : List UInt8) : Option String :=
  ((characters bytes).mapM id).map String.ofList

def faultMark : Char := Char.ofNat 0xfffd

def ofUtf8 (bytes : List UInt8) : String :=
  String.ofList ((characters bytes).map (·.getD faultMark))

end MultiWallet.Text
