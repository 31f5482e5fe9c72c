import MultiWallet.Toml.Scalar
import MultiWallet.Toml.Table
import MultiWallet.Toml.Text

set_option autoImplicit false

namespace MultiWallet.Toml

def skipLinesWithin : Nat → List Char → List Char
  | 0, text => text
  | fuel + 1, text =>
    match newline? (skipComment (skipSpaces text)) with
    | some rest => skipLinesWithin fuel rest
    | none => skipSpaces text

def skipLines (text : List Char) : List Char := skipLinesWithin (text.length + 1) text

abbrev ValueReader := List Char → Option (Json × List Char)

-- Every item takes at least one character, so the length of the text bounds their number.
def readItems (readValue : ValueReader) : Nat → List Char → Option (List Json × List Char)
  | 0, _ => none
  | fuel + 1, text =>
    match skipLines text with
    | ']' :: rest => some ([], rest)
    | text => do
      let (item, rest) ← readValue text
      match skipLines rest with
      | ',' :: rest => do
        let (items, rest) ← readItems readValue fuel rest
        return (item :: items, rest)
      | ']' :: rest => return ([item], rest)
      | _ => none

structure Pair (α : Type) where
  path : List String
  key : String
  value : α

def readPair (readValue : ValueReader) (text : List Char) : Option (Pair Json × List Char) := do
  let (keys, rest) ← readKeys text
  let key ← keys.getLast?
  match rest with
  | '=' :: rest => do
    let (value, rest) ← readValue (skipSpaces rest)
    return ({ path := keys.dropLast, key, value }, rest)
  | _ => none

def readPairs (readValue : ValueReader) : Nat → List Char → Option (List (Pair Json) × List Char)
  | 0, _ => none
  | fuel + 1, text => do
    let (pair, rest) ← readPair readValue text
    match skipSpaces rest with
    | ',' :: rest => do
      let (pairs, rest) ← readPairs readValue fuel rest
      return (pair :: pairs, rest)
    | '\x7d' :: rest => return ([pair], rest)
    | _ => none

def Entries.ofPairs? {α : Type} (pairs : List (Pair α)) : Option (Entries α) :=
  pairs.foldlM (fun (entries : Entries α) pair => entries.addPair pair.path pair.key pair.value) []

def readPlain (text : List Char) : Option (Json × List Char) :=
  if text.head? = some '"' ∨ text.head? = some '\'' then
    (readQuoted text).map fun (s, rest) => (.string s, rest)
  else
    let (scalar, rest) := splitScalar text
    (readScalar scalar).map (·, rest)

def readValueWithin : Nat → ValueReader
  | 0, text => if text.head? = some '[' ∨ text.head? = some '\x7b' then none else readPlain text
  | depth + 1, text =>
    match text with
    | '[' :: rest => do
      let (items, rest) ← readItems (readValueWithin depth) (rest.length + 1) rest
      return (.array items, rest)
    | '\x7b' :: rest =>
      match skipSpaces rest with
      | '\x7d' :: rest => some (.object [], rest)
      | _ => do
        let (pairs, rest) ← readPairs (readValueWithin depth) (rest.length + 1) rest
        return ((← Entries.ofPairs? pairs).toJson, rest)
    | _ => readPlain text

def openLimit : Nat := 79

def readValue : ValueReader := readValueWithin openLimit

end MultiWallet.Toml
