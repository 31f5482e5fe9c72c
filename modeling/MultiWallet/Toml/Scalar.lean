import MultiWallet.Json.Reader

set_option autoImplicit false

namespace MultiWallet.Toml

def isScalarChar (c : Char) : Bool :=
  c.isAlphanum || c == '+' || c == '-' || c == '_' || c == '.' || c == ':'

-- Separators stand between two digits.
def readGroup (isDigit : Char → Bool) : List Char → Option (List Char)
  | [] => none
  | [c] => if isDigit c then some [c] else none
  | c :: '_' :: rest => if isDigit c then (readGroup isDigit rest).map (c :: ·) else none
  | c :: rest => if isDigit c then (readGroup isDigit rest).map (c :: ·) else none

def numeral (base : Nat) (digits : List Char) : Nat :=
  digits.foldl (fun n c => n * base + (Text.hexValueOf? c).getD 0) 0

def inRange (n : Int) : Option Json :=
  if -2 ^ 63 ≤ n ∧ n < 2 ^ 63 then some (.ofInt n) else none

def splitSign : List Char → Bool × List Char
  | '-' :: rest => (true, rest)
  | '+' :: rest => (false, rest)
  | text => (false, text)

def noLeadingZero (digits : List Char) : Bool := digits.length == 1 || digits.head? != some '0'

def readDecimalInteger (text : List Char) : Option Json := do
  let (negative, unsigned) := splitSign text
  let digits ← readGroup Char.isDigit unsigned
  if noLeadingZero digits then
    let n : Int := numeral 10 digits
    inRange (if negative then -n else n)
  else none

def readInteger : List Char → Option Json
  | '0' :: 'x' :: rest => do
    inRange (numeral 16 (← readGroup (fun c => (Text.hexValueOf? c).isSome) rest))
  | '0' :: 'o' :: rest => do
    inRange (numeral 8 (← readGroup (fun c => '0' ≤ c && c ≤ '7') rest))
  | '0' :: 'b' :: rest => do
    inRange (numeral 2 (← readGroup (fun c => c == '0' || c == '1') rest))
  | text => readDecimalInteger text

def isExponentMark (c : Char) : Bool := c == 'e' || c == 'E'

def isFloat (text : List Char) : Bool :=
  let unsigned := (splitSign text).2
  let special := unsigned == ['i', 'n', 'f'] || unsigned == ['n', 'a', 'n']
  let base := unsigned.takeWhile (!isExponentMark ·)
  let exponent := unsigned.dropWhile (!isExponentMark ·)
  let whole := base.takeWhile (· != '.')
  let fraction := base.dropWhile (· != '.')
  let wholeOk := match readGroup Char.isDigit whole with
    | some digits => noLeadingZero digits
    | none => false
  let fractionOk := fraction.isEmpty || (readGroup Char.isDigit (fraction.drop 1)).isSome
  let exponentOk :=
    exponent.isEmpty || (readGroup Char.isDigit (splitSign (exponent.drop 1)).2).isSome
  special || (wholeOk && fractionOk && exponentOk && !(fraction.isEmpty && exponent.isEmpty))

def twoDigits (low high : Nat) (a b : Char) : Bool :=
  a.isDigit && b.isDigit && low ≤ numeral 10 [a, b] && numeral 10 [a, b] ≤ high

def isDate : List Char → Bool
  | [a, b, c, d, '-', e, f, '-', g, h] =>
    [a, b, c, d].all Char.isDigit && twoDigits 1 12 e f &&
      twoDigits 1 (daysIn (numeral 10 [a, b, c, d]) (numeral 10 [e, f])) g h
  | _ => false
where
  daysIn (year month : Nat) : Nat :=
    if month = 2 then
      if year % 4 = 0 ∧ (year % 100 ≠ 0 ∨ year % 400 = 0) then 29 else 28
    else if month = 4 ∨ month = 6 ∨ month = 9 ∨ month = 11 then 30
    else 31

def isOffset : List Char → Bool
  | [] => true
  | ['Z'] | ['z'] => true
  | [s, a, b, ':', c, d] => (s == '+' || s == '-') && twoDigits 0 23 a b && twoDigits 0 59 c d
  | _ => false

def isTime (zoned : Bool) : List Char → Bool
  | a :: b :: ':' :: c :: d :: ':' :: e :: f :: rest =>
    let tail := match rest with
      | '.' :: more => if (more.takeWhile Char.isDigit).isEmpty then ['?']
                       else more.dropWhile Char.isDigit
      | _ => rest
    twoDigits 0 23 a b && twoDigits 0 59 c d && twoDigits 0 60 e f &&
      (if zoned then isOffset tail else tail.isEmpty)
  | _ => false

def isMoment (text : List Char) : Bool :=
  isDate text || isTime false text ||
    (isDate (text.take 10) &&
      match text.drop 10 with
      | c :: rest => (c == 'T' || c == 't' || c == ' ') && isTime true rest
      | [] => false)

-- A number below zero may be as far from it as it likes.
def isTooLarge (text : List Char) : Bool :=
  let (negative, unsigned) := splitSign (text.filter (· != '_'))
  match Json.readNumber false unsigned with
  | some (n, _) => !negative && Json.overflows n
  | none => false

-- No setting takes a number that is not whole, so its size does not count.
def fractional : Json := .number { negative := false, digits := 0, exponent := 0, whole := false }

def readScalar (text : List Char) : Option Json :=
  if text = ['t', 'r', 'u', 'e'] then some (.bool true)
  else if text = ['f', 'a', 'l', 's', 'e'] then some (.bool false)
  else
    match readInteger text with
    | some v => some v
    | none =>
      if isFloat text then if isTooLarge text then none else some fractional
      else if isMoment text then some (.object [("moment", .string (String.ofList text))])
      else none

def splitScalar (text : List Char) : List Char × List Char :=
  let first := text.takeWhile isScalarChar
  match text.dropWhile isScalarChar with
  | ' ' :: d :: rest =>
    if isDate first && d.isDigit then
      (first ++ ' ' :: (d :: rest).takeWhile isScalarChar, (d :: rest).dropWhile isScalarChar)
    else (first, ' ' :: d :: rest)
  | rest => (first, rest)

end MultiWallet.Toml
