import MultiWallet.Http.Host.Label
import MultiWallet.Http.Percent

set_option autoImplicit false

namespace MultiWallet.Http

inductive Host where
  | named (text : String)
  | four (address : Nat)
  | sixteen (groups : List Nat)
deriving DecidableEq, Repr

namespace Host

inductive Problem where
  | missing
  | badName
  | badCharacter
  | badFour
  | badSixteen
deriving DecidableEq, Repr

def Problem.message : Problem → String
  | missing => "empty host"
  | badName => "invalid international domain name"
  | badCharacter => "invalid domain character"
  | badFour => "invalid IPv4 address"
  | badSixteen => "invalid IPv6 address"

def numeral? (base : Nat) (digits : List Char) : Option Nat :=
  (digits.mapM fun c => (Text.hexValueOf? c).filter (· < base)).map
    (·.foldl (fun n d => n * base + d) 0)

-- A leading zero says that the digits behind it are octal, or hexadecimal with an x.
def number? : List Char → Option Nat
  | [] => none
  | '0' :: 'x' :: digits => numeral? 16 digits
  | '0' :: c :: digits => numeral? 8 (c :: digits)
  | digits => numeral? 10 digits

def isNumber (label : List Char) : Bool :=
  (!label.isEmpty && label.all Char.isDigit) || (number? label).isSome

def labels (name : List Char) : List (List Char) :=
  let labels := pieces '.' name
  if labels.getLast? = some [] then labels.dropLast else labels

def endsInNumber (name : List Char) : Bool := (labels name).getLast?.any isNumber

def four? (name : List Char) : Option Nat := do
  let numbers ← (labels name).mapM number?
  let last ← numbers.getLast?
  let count := numbers.length
  if count ≤ 4 ∧ numbers.dropLast.all (· < 256) ∧ last < 256 ^ (5 - count) then
    return numbers.dropLast.foldl (fun n byte => n * 256 + byte) 0 * 256 ^ (5 - count) + last
  else none

def decimalByte? (digits : List Char) : Option Nat := do
  let n ← if digits.isEmpty then none else numeral? 10 digits
  if n < 256 ∧ (digits.length = 1 ∨ digits.head? ≠ some '0') then return n else none

def dotted? (text : List Char) : Option (List Nat) :=
  match (pieces '.' text).mapM decimalByte? with
  | some [a, b, c, d] => some [a * 256 + b, c * 256 + d]
  | _ => none

def group? (digits : List Char) : Option Nat :=
  if digits.isEmpty ∨ 4 < digits.length then none else numeral? 16 digits

-- The last two groups may be written as four bytes.
def groups? (dottedLast : Bool) : List (List Char) → Option (List Nat)
  | [] => some []
  | [last] =>
    if dottedLast && last.elem '.' then dotted? last else (group? last).map ([·])
  | group :: rest => do
    let n ← group? group
    return n :: (← groups? dottedLast rest)

def splitGap? : List Char → Option (List Char × List Char)
  | ':' :: ':' :: rest => some ([], rest)
  | c :: rest => (splitGap? rest).map fun (front, back) => (c :: front, back)
  | [] => none

def side (text : List Char) : List (List Char) :=
  if text.isEmpty then [] else pieces ':' text

def sixteen? (text : List Char) : Option (List Nat) :=
  match splitGap? text with
  | some (front, back) => do
    let front ← groups? false (side front)
    let back ← groups? true (side back)
    let count := front.length + back.length
    if count < 8 then return front ++ List.replicate (8 - count) 0 ++ back else none
  | none => do
    let groups ← groups? true (pieces ':' text)
    if groups.length = 8 then return groups else none

def readBracketed (text : List Char) : Except Problem Host :=
  if text.getLast? = some ']' then
    match sixteen? (text.drop 1).dropLast with
    | some groups => .ok (.sixteen groups)
    | none => .error .badSixteen
  else .error .badSixteen

def read (text : List Char) : Except Problem Host :=
  if text.head? = some '[' then readBracketed text
  else
    match (decodeSegment? (String.ofList text)).bind fun decoded => plainName? decoded.toList with
    | none => .error .badName
    | some [] => .error .missing
    | some name =>
      if endsInNumber name then
        match four? name with
        | some address => .ok (.four address)
        | none => .error .badFour
      else .ok (.named (String.ofList name))

def badCharacters : List Char :=
  [Char.ofNat 0, '\t', '\n', '\r', ' ', '#', '/', ':', '<', '>', '?', '@', '[', '\\', ']', '^', '|']

def readPlain (text : List Char) : Except Problem Host :=
  if text.head? = some '[' then readBracketed text
  else if text.any badCharacters.elem then .error .badCharacter
  else .ok (.named (String.ofList (text.flatMap (encodeExcept []))))

def zerosAt (groups : List Nat) : Nat := (groups.takeWhile (· == 0)).length

-- Where the first of the longest runs of zeros begins; a single zero is none.
def longestGap (position : Nat) : List Nat → Option (Nat × Nat)
  | [] => none
  | n :: rest =>
    let here := zerosAt (n :: rest)
    match longestGap (position + 1) rest with
    | some (start, length) => if length ≤ here then some (position, here) else some (start, length)
    | none => if 2 ≤ here then some (position, here) else none

def hexGroups (groups : List Nat) : String :=
  ":".intercalate (groups.map fun n => String.ofList (Nat.toDigits 16 n))

def toText : Host → String
  | named text => text
  | four address =>
    ".".intercalate ([3, 2, 1, 0].map fun k => toString (address / 256 ^ k % 256))
  | sixteen groups =>
    match longestGap 0 groups with
    | some (start, length) =>
      "[" ++ hexGroups (groups.take start) ++ "::" ++ hexGroups (groups.drop (start + length)) ++ "]"
    | none => "[" ++ hexGroups groups ++ "]"

end Host

end MultiWallet.Http
