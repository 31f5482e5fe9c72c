import MultiWallet.Text.Hex

set_option autoImplicit false

namespace MultiWallet

/-- A number as written: `digits` times ten to the `exponent`. -/
structure Json.Number where
  negative : Bool
  digits : Nat
  exponent : Int
  -- No point and no exponent stands in its text.
  whole : Bool
deriving DecidableEq, Repr

inductive Json where
  | null
  | bool (b : Bool)
  | number (n : Json.Number)
  | string (s : String)
  | array (items : List Json)
  | object (members : List (String × Json))
  -- Well formed, but a text that holds half a surrogate pair or a number beyond all doubles.
  | unreadable
deriving Repr, Inhabited

namespace Json

def ofInt (n : Int) : Json :=
  .number { negative := decide (n < 0), digits := n.natAbs, exponent := 0, whole := true }

def ofNat (n : Nat) : Json := ofInt n

def ofUInt64 (n : UInt64) : Json := ofNat n.toNat

def ofOption {α : Type} (encode : α → Json) : Option α → Json
  | none => .null
  | some a => encode a

def escape (c : Char) : List Char :=
  if c = '"' then ['\\', '"']
  else if c = '\\' then ['\\', '\\']
  else if c = '\n' then ['\\', 'n']
  else if c = '\r' then ['\\', 'r']
  else if c = '\t' then ['\\', 't']
  else if c.toNat = 8 then ['\\', 'b']
  else if c.toNat = 12 then ['\\', 'f']
  else if c.toNat < 32 then
    ['\\', 'u', '0', '0', Text.hexDigitOf (c.toNat / 16), Text.hexDigitOf (c.toNat % 16)]
  else [c]

def writeText (s : String) : List Char := '"' :: s.toList.flatMap escape ++ ['"']

def Number.write (n : Number) : List Char :=
  let digits := Nat.toDigits 10 n.digits
  let unsigned := if n.exponent = 0 then digits else digits ++ 'e' :: (toString n.exponent).toList
  if n.negative then '-' :: unsigned else unsigned

mutual

def write : Json → List Char
  | .null | .unreadable => "null".toList
  | .bool true => "true".toList
  | .bool false => "false".toList
  | .number n => n.write
  | .string s => writeText s
  | .array items => '[' :: writeItems items
  | .object members => '{' :: writeMembers members

def writeItems : List Json → List Char
  | [] => [']']
  | [item] => write item ++ [']']
  | item :: rest => write item ++ ',' :: writeItems rest

def writeMembers : List (String × Json) → List Char
  | [] => ['}']
  | [(name, value)] => writeText name ++ ':' :: write value ++ ['}']
  | (name, value) :: rest => writeText name ++ ':' :: write value ++ ',' :: writeMembers rest

end

mutual

def isReadable (depth : Nat) : Json → Bool
  | .array items => depth != 0 && areReadable (depth - 1) items
  | .object members => depth != 0 && membersReadable (depth - 1) members
  | .unreadable => false
  | .null | .bool _ | .number _ | .string _ => true

def areReadable (depth : Nat) : List Json → Bool
  | [] => true
  | item :: rest => isReadable depth item && areReadable depth rest

def membersReadable (depth : Nat) : List (String × Json) → Bool
  | [] => true
  | (_, value) :: rest => isReadable depth value && membersReadable depth rest

end

def openLimit : Nat := 127

def asReadable (depth : Nat) (j : Json) : Option Json := if j.isReadable depth then some j else none

def render (j : Json) : String := String.ofList j.write

end Json

end MultiWallet
