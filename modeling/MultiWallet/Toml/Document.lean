import MultiWallet.Toml.Value

set_option autoImplicit false

namespace MultiWallet.Toml

inductive Statement (α : Type) where
  | blank
  | pair (pair : Pair α)
  | table (path : List String) (key : String)
  | element (path : List String) (key : String)

def readHeader (make : List String → String → Statement Json) (close : List Char)
    (text : List Char) : Option (Statement Json × List Char) := do
  let (keys, rest) ← readKeys text
  let key ← keys.getLast?
  if close.isPrefixOf rest then some (make keys.dropLast key, rest.drop close.length) else none

def readStatement (text : List Char) : Option (Statement Json × List Char) :=
  match text with
  | [] | '#' :: _ | '\n' :: _ | '\x0d' :: _ => some (.blank, text)
  | '[' :: '[' :: rest => readHeader .element [']', ']'] rest
  | '[' :: rest => readHeader .table [']'] rest
  | _ => (readPair readValue text).map fun (pair, rest) => (.pair pair, rest)

def endLine (text : List Char) : Option (List Char) :=
  match skipComment (skipSpaces text) with
  | [] => some []
  | rest => newline? rest

-- Every line takes at least one character, so the length of the text bounds their number.
def statementsWithin : Nat → List Char → Option (List (Statement Json))
  | 0, _ => none
  | fuel + 1, text =>
    match skipSpaces text with
    | [] => some []
    | text => do
      let (statement, rest) ← readStatement text
      let statements ← statementsWithin fuel (← endLine rest)
      return statement :: statements

structure Document (α : Type) where
  root : Entries α
  current : List String

namespace Document

variable {α : Type}

def step (d : Document α) : Statement α → Option (Document α)
  | .blank => some d
  | .pair pair => do
    let root ← d.root.changeAt .implied
      (fun _ entries => entries.addPair pair.path pair.key pair.value) d.current .header
    return { d with root }
  | .table path key => do
    return { root := ← d.root.openTable path key, current := path ++ [key] }
  | .element path key => do
    return { root := ← d.root.openElement path key, current := path ++ [key] }

def empty : Document α := { root := [], current := [] }

end Document

def withoutMark : List Char → List Char
  | '\ufeff' :: rest => rest
  | text => text

def read (text : List Char) : Option Json := do
  let text := withoutMark text
  let statements ← statementsWithin (text.length + 1) text
  let document ← statements.foldlM Document.step .empty
  return document.root.toJson

end MultiWallet.Toml
