import MultiWallet.Json.Basic

set_option autoImplicit false

namespace MultiWallet.Json

inductive Token where
  | openArray
  | closeArray
  | openObject
  | closeObject
  | colon
  | comma
  | text (s : Option String)
  | value (j : Json)
deriving Repr

def isSpace (c : Char) : Bool := c == ' ' || c == '\t' || c == '\n' || c == '\r'

def digitValue? (c : Char) : Option Nat :=
  if '0' ≤ c ∧ c ≤ '9' then some (c.toNat - '0'.toNat) else none

def readUnit? (a b c d : Char) : Option Nat := do
  let a ← Text.hexValueOf? a
  let b ← Text.hexValueOf? b
  let c ← Text.hexValueOf? c
  let d ← Text.hexValueOf? d
  return ((a * 16 + b) * 16 + c) * 16 + d

def simpleEscape? : Char → Option Char
  | '"' => some '"'
  | '\\' => some '\\'
  | '/' => some '/'
  | 'b' => some (Char.ofNat 8)
  | 'f' => some (Char.ofNat 12)
  | 'n' => some '\n'
  | 'r' => some '\r'
  | 't' => some '\t'
  | _ => none

-- Half a surrogate pair stands for no character; what is read then is no text.
def readText (seen : Option (List Char)) :
    List Char → Option (Option (List Char) × List Char)
  | [] => none
  | '"' :: rest => some (seen.map List.reverse, rest)
  | '\\' :: 'u' :: a :: b :: c :: d :: rest => do
      let unit ← readUnit? a b c d
      if 0xd800 ≤ unit ∧ unit < 0xdc00 then
        match rest with
        | '\\' :: 'u' :: e :: f :: g :: h :: rest => do
            let low ← readUnit? e f g h
            if 0xdc00 ≤ low ∧ low < 0xe000 then
              readText
                (seen.map (Char.ofNat (0x10000 + (unit - 0xd800) * 0x400 + (low - 0xdc00)) :: ·))
                rest
            else readText none rest
        | rest => readText none rest
      else if 0xdc00 ≤ unit ∧ unit < 0xe000 then readText none rest
      else readText (seen.map (Char.ofNat unit :: ·)) rest
  | '\\' :: c :: rest => do
      let c ← simpleEscape? c
      readText (seen.map (c :: ·)) rest
  | c :: rest => if c.toNat < 32 then none else readText (seen.map (c :: ·)) rest

def spanDigits (n count : Nat) : List Char → Nat × Nat × List Char
  | [] => (n, count, [])
  | c :: rest =>
    match digitValue? c with
    | some d => spanDigits (n * 10 + d) (count + 1) rest
    | none => (n, count, c :: rest)

-- From here on no finite binary double is nearest.
def doubleLimit : Nat := 2 ^ 1024 - 2 ^ 970

def reaches (limit : Nat) (n : Number) : Bool :=
  if 0 ≤ n.exponent then decide (limit ≤ n.digits * 10 ^ n.exponent.toNat)
  else decide (limit * 10 ^ n.exponent.natAbs ≤ n.digits)

def overflows (n : Number) : Bool :=
  let magnitude := n.exponent + (Nat.toDigits 10 n.digits).length
  n.digits != 0 &&
    (decide (309 < magnitude) || (decide (magnitude = 309) && reaches doubleLimit n))

def readExponent (number : Number) : List Char → Option (Number × List Char)
  | c :: rest =>
    if c = 'e' ∨ c = 'E' then
      let (negative, rest) := match rest with
        | '-' :: rest => (true, rest)
        | '+' :: rest => (false, rest)
        | _ => (false, rest)
      let (e, count, rest) := spanDigits 0 0 rest
      if count = 0 then none
      else
        let shift : Int := if negative then -(e : Int) else e
        some ({ number with exponent := number.exponent + shift, whole := false }, rest)
    else some (number, c :: rest)
  | [] => some (number, [])

def readFraction (number : Number) : List Char → Option (Number × List Char)
  | '.' :: rest =>
    let (n, count, rest) := spanDigits number.digits 0 rest
    if count = 0 then none
    else readExponent { number with digits := n, exponent := -(count : Int), whole := false } rest
  | rest => readExponent number rest

def readNumber (negative : Bool) (text : List Char) : Option (Number × List Char) :=
  let (n, count, rest) := spanDigits 0 0 text
  if count = 0 ∨ (text.head? = some '0' ∧ 1 < count) then none
  else readFraction { negative, digits := n, exponent := 0, whole := true } rest

def keyword? : List Char → Option (Json × List Char)
  | 't' :: 'r' :: 'u' :: 'e' :: rest => some (.bool true, rest)
  | 'f' :: 'a' :: 'l' :: 's' :: 'e' :: rest => some (.bool false, rest)
  | 'n' :: 'u' :: 'l' :: 'l' :: rest => some (.null, rest)
  | _ => none

def ofText : Option String → Json
  | some s => .string s
  | none => .unreadable

def ofNumber (n : Number) : Json := if overflows n then .unreadable else .number n

def nextToken : List Char → Option (Token × List Char)
  | '[' :: rest => some (.openArray, rest)
  | ']' :: rest => some (.closeArray, rest)
  | '{' :: rest => some (.openObject, rest)
  | '}' :: rest => some (.closeObject, rest)
  | ':' :: rest => some (.colon, rest)
  | ',' :: rest => some (.comma, rest)
  | '"' :: rest => (readText (some []) rest).map fun (s, rest) => (.text (s.map String.ofList), rest)
  | '-' :: rest => (readNumber true rest).map fun (n, rest) => (.value (ofNumber n), rest)
  | c :: rest =>
    if (digitValue? c).isSome then
      (readNumber false (c :: rest)).map fun (n, rest) => (.value (ofNumber n), rest)
    else (keyword? (c :: rest)).map fun (j, rest) => (.value j, rest)
  | [] => none

-- Every token takes at least one character, so the length of the text bounds their number.
def tokensWithin (seen : List Token) : Nat → List Char → Option (List Token)
  | 0, _ => none
  | fuel + 1, text =>
    match text.dropWhile isSpace with
    | [] => some seen.reverse
    | text => do
      let (token, rest) ← nextToken text
      tokensWithin (token :: seen) fuel rest

def tokens (text : List Char) : Option (List Token) := tokensWithin [] (text.length + 1) text

/-- A container that is still open, with what it holds so far in reverse; an object holds nothing
once a name in it cannot be read. -/
inductive Frame where
  | array (items : List Json)
  | object (members : Option (List (String × Json)))
  | member (members : Option (List (String × Json))) (name : Option String)
deriving Repr

inductive Awaited where
  | value
  | firstItem
  | firstName
  | name
  | colon
  | separator
  | nothing
deriving DecidableEq, Repr

structure Progress where
  stack : List Frame
  awaited : Awaited
  result : Json

def Progress.enter (p : Progress) (frame : Frame) (awaited : Awaited) : Progress :=
  { p with stack := frame :: p.stack, awaited }

def Progress.complete (p : Progress) (j : Json) : Option Progress :=
  match p.stack with
  | [] => some { stack := [], awaited := .nothing, result := j }
  | .array items :: stack =>
    some { p with stack := .array (j :: items) :: stack, awaited := .separator }
  | .member members name :: stack =>
    let members := do return (← name, j) :: (← members)
    some { p with stack := .object members :: stack, awaited := .separator }
  | .object _ :: _ => none

def Progress.close (p : Progress) (token : Token) : Option Progress :=
  match p.stack, token with
  | .array items :: stack, .closeArray =>
    { p with stack }.complete (.array items.reverse)
  | .object members :: stack, .closeObject =>
    { p with stack }.complete (members.elim .unreadable fun members => .object members.reverse)
  | _, _ => none

def Progress.begin (p : Progress) : Token → Option Progress
  | .openArray => some (p.enter (.array []) .firstItem)
  | .openObject => some (p.enter (.object (some [])) .firstName)
  | .text s => p.complete (ofText s)
  | .value j => p.complete j
  | _ => none

def Progress.named (p : Progress) (name : Option String) : Option Progress :=
  match p.stack with
  | .object members :: stack =>
    some { p with stack := .member members name :: stack, awaited := .colon }
  | _ => none

def Progress.step (p : Progress) (token : Token) : Option Progress :=
  match p.awaited, token with
  | .value, token => p.begin token
  | .firstItem, .closeArray => p.close .closeArray
  | .firstItem, token => p.begin token
  | .firstName, .closeObject => p.close .closeObject
  | .firstName, .text name => p.named name
  | .name, .text name => p.named name
  | .colon, .colon => some { p with awaited := .value }
  | .separator, .comma =>
    match p.stack with
    | .array _ :: _ => some { p with awaited := .value }
    | .object _ :: _ => some { p with awaited := .name }
    | _ => none
  | .separator, token => p.close token
  | _, _ => none

def ofTokens (tokens : List Token) : Option Json := do
  let p ← tokens.foldlM Progress.step { stack := [], awaited := .value, result := .null }
  if p.awaited = .nothing then some p.result else none

def read (text : List Char) : Option Json := do ofTokens (← tokens text)

def ofString (text : String) : Option Json := read text.toList

end MultiWallet.Json
