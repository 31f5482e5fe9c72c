set_option autoImplicit false

namespace MultiWallet.Http.Host.Punycode

def digit? (c : Char) : Option Nat :=
  if 'a' ≤ c ∧ c ≤ 'z' then some (c.toNat - 'a'.toNat)
  else if '0' ≤ c ∧ c ≤ '9' then some (c.toNat - '0'.toNat + 26)
  else none

-- A digit below the threshold of its place ends a number.
def threshold (place bias : Nat) : Nat :=
  if place ≤ bias then 1 else if bias + 26 ≤ place then 26 else place - bias

def settle (delta place : Nat) : Nat :=
  if 455 < delta then settle (delta / 35) (place + 36)
  else place + 36 * delta / (delta + 38)
termination_by delta
decreasing_by omega

def adapt (delta length : Nat) (first : Bool) : Nat :=
  let scaled := if first then delta / 700 else delta / 2
  settle (scaled + scaled / length) 0

structure State where
  text : List Char
  -- Code of the next character, and the place where it goes.
  code : Nat
  place : Nat
  bias : Nat
  -- The number that is being read, with the weight and the place of its next digit.
  number : Nat := 0
  weight : Nat := 1
  position : Nat := 36

def start (text : List Char) : State := { text, code := 0x80, place := 0, bias := 72 }

def charOf? (code : Nat) : Option Char :=
  if code < 0xd800 ∨ (0xdfff < code ∧ code < 0x110000) then some (Char.ofNat code) else none

def State.insert? (s : State) : Option State := do
  let length := s.text.length + 1
  let index := s.place + s.number
  let c ← charOf? (s.code + index / length)
  return {
    text := s.text.take (index % length) ++ c :: s.text.drop (index % length)
    code := s.code + index / length
    place := index % length + 1
    bias := adapt s.number length (s.place == 0) }

def State.digit? (s : State) (d : Nat) : Option State :=
  let t := threshold s.position s.bias
  let s := { s with number := s.number + d * s.weight }
  if d < t then s.insert?
  else if 2 ^ 32 ≤ s.weight * (36 - t) then none
  else some { s with weight := s.weight * (36 - t), position := s.position + 36 }

def State.run? (s : State) : List Char → Option (List Char)
  | [] => if s.weight = 1 then some s.text else none
  | c :: rest => do
    let s ← s.digit? (← Punycode.digit? c)
    s.run? rest

def isPlain (c : Char) : Bool := c.toNat < 0x80

def decode? (label : List Char) : Option (List Char) :=
  let numbers := (label.reverse.takeWhile (· != '-')).reverse
  let basic := label.take (label.length - numbers.length)
  match basic with
  | [] => (start []).run? numbers
  | ['-'] => none
  | basic => if basic.all isPlain then (start basic.dropLast).run? numbers else none

end MultiWallet.Http.Host.Punycode
