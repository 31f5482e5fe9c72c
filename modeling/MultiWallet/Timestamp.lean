import MultiWallet.Text.Blank

set_option autoImplicit false

namespace MultiWallet

structure Date where
  year : Int
  month : Nat
  day : Nat
deriving DecidableEq, Repr

/-- Seconds since the start of 1970; a leap second has a fraction of one or more. -/
structure Timestamp where
  seconds : Int
  nanoseconds : Nat
deriving DecidableEq, Repr

namespace Date

def isLeap (year : Int) : Bool := year % 4 == 0 && (year % 100 != 0 || year % 400 == 0)

def daysInMonth (year : Int) (month : Nat) : Nat :=
  if month = 2 then (if isLeap year then 29 else 28)
  else if month = 4 ∨ month = 6 ∨ month = 9 ∨ month = 11 then 30
  else 31

def valid (d : Date) : Bool :=
  1 ≤ d.month && d.month ≤ 12 && 1 ≤ d.day && d.day ≤ daysInMonth d.year d.month &&
    -262143 ≤ d.year && d.year ≤ 262142

-- Years start in March here, so that a leap day is the last of its year.
def daysSinceEpoch (d : Date) : Int :=
  let year := if d.month ≤ 2 then d.year - 1 else d.year
  let month : Int := (d.month + 9) % 12
  let dayOfYear := (153 * month + 2) / 5 + d.day - 1
  365 * year + year / 4 - year / 100 + year / 400 + dayOfYear - 719468

def ofDays (days : Int) : Date :=
  let n := days + 719468
  let era := n / 146097
  let dayOfEra := n % 146097
  let yearOfEra :=
    (dayOfEra - dayOfEra / 1460 + dayOfEra / 36524 - dayOfEra / 146096) / 365
  let dayOfYear := dayOfEra - (365 * yearOfEra + yearOfEra / 4 - yearOfEra / 100)
  let shifted := (5 * dayOfYear + 2) / 153
  let day := dayOfYear - (153 * shifted + 2) / 5 + 1
  let month := if shifted < 10 then shifted + 3 else shifted - 9
  let year := yearOfEra + era * 400 + (if month ≤ 2 then 1 else 0)
  { year, month := month.toNat, day := day.toNat }

end Date

namespace Timestamp

def padded (width n : Nat) : List Char :=
  let digits := Nat.toDigits 10 n
  List.replicate (width - digits.length) '0' ++ digits

def writeYear (year : Int) : List Char :=
  if 0 ≤ year ∧ year ≤ 9999 then padded 4 year.toNat
  else (if year < 0 then '-' else '+') :: padded 4 year.natAbs

def writeFraction (nanoseconds : Nat) : List Char :=
  if nanoseconds = 0 then []
  else if nanoseconds % 1000000 = 0 then '.' :: padded 3 (nanoseconds / 1000000)
  else if nanoseconds % 1000 = 0 then '.' :: padded 6 (nanoseconds / 1000)
  else '.' :: padded 9 nanoseconds

def write (t : Timestamp) : List Char :=
  let date := Date.ofDays (t.seconds / 86400)
  let clock := (t.seconds % 86400).toNat
  let (second, nanoseconds) :=
    if t.nanoseconds < 1000000000 then (clock % 60, t.nanoseconds)
    else (clock % 60 + 1, t.nanoseconds - 1000000000)
  writeYear date.year ++ '-' :: padded 2 date.month ++ '-' :: padded 2 date.day ++
    'T' :: padded 2 (clock / 3600) ++ ':' :: padded 2 (clock / 60 % 60) ++
    ':' :: padded 2 second ++ writeFraction nanoseconds ++ ['Z']

def toText (t : Timestamp) : String := String.ofList t.write

def ofUnixSeconds? (seconds : Int) : Option Timestamp :=
  if (Date.ofDays (seconds / 86400)).valid then some { seconds, nanoseconds := 0 } else none

def skipBlanks (text : List Char) : List Char := text.dropWhile Text.isBlank

def digit? (c : Char) : Option Nat :=
  if '0' ≤ c ∧ c ≤ '9' then some (c.toNat - '0'.toNat) else none

def upTo : (width n count : Nat) → List Char → Nat × Nat × List Char
  | 0, n, count, text => (n, count, text)
  | _ + 1, n, count, [] => (n, count, [])
  | width + 1, n, count, c :: rest =>
    match digit? c with
    | some d => upTo width (n * 10 + d) (count + 1) rest
    | none => (n, count, c :: rest)

def readNumber (width : Nat) (text : List Char) : Option (Nat × List Char) :=
  let (n, count, rest) := upTo width 0 0 (skipBlanks text)
  if count = 0 then none else some (n, rest)

-- A year with a sign may have any number of digits.
def readYear (text : List Char) : Option (Int × List Char) :=
  match skipBlanks text with
  | '-' :: rest =>
    let (n, count, rest') := upTo rest.length 0 0 rest
    if count = 0 then none else some (-(n : Int), rest')
  | '+' :: rest =>
    let (n, count, rest') := upTo rest.length 0 0 rest
    if count = 0 then none else some (n, rest')
  | rest => (readNumber 4 rest).map fun (n, rest) => ((n : Int), rest)

def readMark (mark : Char) (text : List Char) : Option (List Char) :=
  match skipBlanks text with
  | c :: rest => if c = mark then some rest else none
  | [] => none

def readNanoseconds : List Char → Option (Nat × List Char)
  | '.' :: rest =>
    let (n, count, rest) := upTo 9 0 0 rest
    if count = 0 then none
    else some (n * 10 ^ (9 - count), rest.dropWhile (fun c => (digit? c).isSome))
  | rest => some (0, rest)

def readOffsetSign : List Char → Option (Int × List Char)
  | '+' :: rest => some (1, rest)
  | '-' :: rest => some (-1, rest)
  | '−' :: rest => some (-1, rest)
  | _ => none

def readOffset (text : List Char) : Option (Int × List Char) :=
  match text with
  | 'Z' :: rest | 'z' :: rest => some (0, rest)
  | _ =>
    match text with
    | u :: t :: c :: rest =>
      if [u, t, c].map Char.toUpper = ['U', 'T', 'C'] then some (0, rest) else hoursAndMinutes text
    | _ => hoursAndMinutes text
where
  hoursAndMinutes (text : List Char) : Option (Int × List Char) := do
    let (sign, rest) ← readOffsetSign text
    match rest with
    | h₁ :: h₂ :: rest =>
      let hours := (← digit? h₁) * 10 + (← digit? h₂)
      match rest.dropWhile (fun c => c = ':' ∨ Text.isBlank c) with
      | m₁ :: m₂ :: rest =>
        let minutes := (← digit? m₁) * 10 + (← digit? m₂)
        if minutes < 60 ∧ hours < 24 then some (sign * (hours * 3600 + minutes * 60), rest)
        else none
      | _ => none
    | _ => none

def assemble (date : Date) (hour minute second nanoseconds : Nat) (offset : Int) :
    Option Timestamp :=
  if date.valid = true ∧ hour < 24 ∧ minute < 60 ∧ second ≤ 60 then
    let (second, nanoseconds) :=
      if second = 60 then (59, nanoseconds + 1000000000) else (second, nanoseconds)
    let seconds := date.daysSinceEpoch * 86400 + hour * 3600 + minute * 60 + second - offset
    if (Date.ofDays (seconds / 86400)).valid then some { seconds, nanoseconds } else none
  else none

def read (text : List Char) : Option Timestamp := do
  let (year, text) ← readYear text
  let text ← readMark '-' text
  let (month, text) ← readNumber 2 text
  let text ← readMark '-' text
  let (day, text) ← readNumber 2 text
  let text ← match text with
    | c :: rest => if c = 't' ∨ c = 'T' ∨ c = ' ' then some rest else none
    | [] => none
  let (hour, text) ← readNumber 2 text
  let text ← readMark ':' text
  let (minute, text) ← readNumber 2 text
  let text ← readMark ':' text
  let (second, text) ← readNumber 2 text
  let (nanoseconds, text) ← readNanoseconds text
  let (offset, text) ← readOffset (skipBlanks text)
  if skipBlanks text = [] then assemble { year, month, day } hour minute second nanoseconds offset
  else none

def ofString (text : String) : Option Timestamp := read text.toList

end Timestamp

end MultiWallet
