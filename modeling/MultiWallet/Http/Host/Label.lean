import MultiWallet.Http.Host.Characters
import MultiWallet.Http.Host.Punycode

set_option autoImplicit false

namespace MultiWallet.Http.Host

def pieces (separator : Char) : List Char → List (List Char)
  | [] => [[]]
  | c :: rest =>
    if c = separator then [] :: pieces separator rest
    else
      match pieces separator rest with
      | first :: others => (c :: first) :: others
      | [] => [[c]]

def isKept (c : Char) : Bool :=
  c.toNat < 0x80 || !(isRefused c || isIgnored c || isReplaced c)

def codedMark : List Char := ['x', 'n', '-', '-']

-- A coded label holds at least one character that is not plain.
def decodeLabel? (label : List Char) : Option (List Char) :=
  if codedMark.isPrefixOf label then
    let code := label.drop codedMark.length
    if code.isEmpty ∨ code.getLast? = some '-' then none
    else (Punycode.decode? code).bind fun text => if text.all isKept then some text else none
  else some label

-- `before` is the part of the label in front, from its end.
def joinerFits (before : List Char) (c : Char) (after : List Char) : Bool :=
  before.head?.any killsVowel ||
    (c == nonJoiner && (before.dropWhile Text.isAttached).head?.any joinsAfter &&
      (after.dropWhile Text.isAttached).head?.any joinsBefore)

def joinersFit (before : List Char) : List Char → Bool
  | [] => true
  | c :: rest => (!isJoiner c || joinerFits before c rest) && joinersFit (c :: before) rest

def labelFits (label : List Char) : Bool := !label.head?.any isMark && joinersFit [] label

def runsFromRight (d : Direction) : Bool := d == .fromRight || d == .arabicNumber

def directionsFit (label : List Char) : Bool :=
  match label.map direction with
  | [] => true
  | first :: rest =>
    let ending := rest.reverse.dropWhile (· == .attached)
    match first with
    | .fromLeft =>
      !rest.any runsFromRight && ending.head?.all fun d => d == .fromLeft || d == .digit
    | .fromRight =>
      !rest.elem .fromLeft && !(rest.elem .digit && rest.elem .arabicNumber) &&
        ending.head?.all fun d => d == .fromRight || d == .digit || d == .arabicNumber
    | _ => false

def allDirectionsFit (labels : List (List Char)) : Bool :=
  !labels.any (·.any fun c => runsFromRight (direction c)) || labels.all directionsFit

def plainName? (text : List Char) : Option (List Char) :=
  if text.any isRefused then none
  else
    let name := (text.filter (!isIgnored ·)).flatMap plain
    match (pieces '.' name).mapM decodeLabel? with
    | some labels =>
      if labels.all labelFits && allDirectionsFit labels then some name else none
    | none => none

end MultiWallet.Http.Host
