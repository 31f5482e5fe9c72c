import MultiWallet.Json.Basic

set_option autoImplicit false

namespace MultiWallet.Toml

inductive Origin where
  | header
  -- Passed through by the header of another table.
  | implied
  -- Made by keys that are joined by points.
  | dotted
deriving DecidableEq, Repr

inductive Node (α : Type) where
  | value (v : α)
  | table (origin : Origin) (entries : List (String × Node α))
  -- Tables under one repeated header, of which the last is open.
  | tables (elements : List (List (String × Node α)))

abbrev Entries (α : Type) := List (String × Node α)

namespace Node

mutual

def toJson : Node Json → Json
  | .value v => v
  | .table _ entries => .object (membersOf entries)
  | .tables elements => .array (objectsOf elements)

def membersOf : List (String × Node Json) → List (String × Json)
  | [] => []
  | (name, node) :: rest => (name, toJson node) :: membersOf rest

def objectsOf : List (List (String × Node Json)) → List Json
  | [] => []
  | entries :: rest => .object (membersOf entries) :: objectsOf rest

end

end Node

namespace Entries

def toJson (entries : Entries Json) : Json := .object (Node.membersOf entries)

variable {α : Type}

def replace (entries : Entries α) (name : String) (node : Node α) : Entries α :=
  entries.map fun (other, old) => if other == name then (other, node) else (other, old)

def add (entries : Entries α) (name : String) (node : Node α) : Option (Entries α) :=
  if (entries.lookup name).isSome then none else some (entries ++ [(name, node)])

def changeAt (made : Origin) (change : Origin → Entries α → Option (Entries α)) :
    List String → Origin → Entries α → Option (Entries α)
  | [], origin, entries => change origin entries
  | name :: path, _, entries =>
    match entries.lookup name with
    | none => do
      let inner ← changeAt made change path made []
      return entries ++ [(name, .table made inner)]
    | some (.table origin inner) =>
      if made = .dotted ∧ origin = .header then none
      else do
        let inner ← changeAt made change path origin inner
        return entries.replace name (.table origin inner)
    | some (.tables elements) => do
      let inner ← changeAt made change path .header (← elements.getLast?)
      return entries.replace name (.tables (elements.dropLast ++ [inner]))
    | some (.value _) => none

def addPair (entries : Entries α) (path : List String) (key : String) (value : α) :
    Option (Entries α) :=
  changeAt .dotted
    (fun origin entries =>
      if path.isEmpty ∨ origin = .dotted then entries.add key (.value value) else none)
    path .header entries

def openTable (entries : Entries α) (path : List String) (key : String) : Option (Entries α) :=
  changeAt .implied
    (fun _ entries =>
      match entries.lookup key with
      | none => entries.add key (.table .header [])
      | some (.table .implied inner) => some (entries.replace key (.table .header inner))
      | some _ => none)
    path .header entries

def openElement (entries : Entries α) (path : List String) (key : String) : Option (Entries α) :=
  changeAt .implied
    (fun _ entries =>
      match entries.lookup key with
      | none => entries.add key (.tables [[]])
      | some (.tables elements) => some (entries.replace key (.tables (elements ++ [[]])))
      | some _ => none)
    path .header entries

end Entries

end MultiWallet.Toml
