import MultiWallet.Json.Reader
import MultiWallet.Decimal.Text

set_option autoImplicit false

namespace MultiWallet.Json

def asText : Json → Option String
  | .string s => some s
  | _ => none

def asBool : Json → Option Bool
  | .bool b => some b
  | _ => none

def asInt : Json → Option Int
  | .number n =>
    if n.whole = true ∧ (n.negative = true → n.digits ≠ 0) then
      some (if n.negative then -(n.digits : Int) else n.digits)
    else none
  | _ => none

def intBetween (low high : Int) (j : Json) : Option Int := do
  let n ← j.asInt
  if low ≤ n ∧ n ≤ high then some n else none

def asUInt32 (j : Json) : Option UInt32 :=
  (j.intBetween 0 (2 ^ 32 - 1)).map fun n => UInt32.ofNat n.toNat

def asUInt64 (j : Json) : Option UInt64 :=
  (j.intBetween 0 (2 ^ 64 - 1)).map fun n => UInt64.ofNat n.toNat

def asArray {α : Type} (decode : Json → Option α) : Json → Option (List α)
  | .array items => items.mapM decode
  | _ => none

def asOption {α : Type} (decode : Json → Option α) : Json → Option (Option α)
  | .null => some none
  | j => (decode j).map some

def asMap {α : Type} (decode : Json → Option α) : Json → Option (List (String × α))
  | .object members =>
    members.foldlM (fun entries (key, value) => do
      let value ← decode value
      return entries.filter (·.1 != key) ++ [(key, value)]) []
  | _ => none

structure Record where
  fields : List (String × Json)
  positional : Bool

namespace Record

def distinct : List String → Bool
  | [] => true
  | name :: rest => !rest.elem name && distinct rest

def ofJson? (names : List String) : Json → Option Record
  | .object members =>
    let fields := members.filter fun (name, _) => names.elem name
    if distinct (fields.map (·.1)) then some { fields, positional := false } else none
  | .array items =>
    if items.length ≤ names.length then some { fields := names.zip items, positional := true }
    else none
  | _ => none

def required {α : Type} (r : Record) (name : String) (decode : Json → Option α) : Option α := do
  decode (← r.fields.lookup name)

def optional {α : Type} (r : Record) (name : String) (decode : Json → Option α) :
    Option (Option α) :=
  match r.fields.lookup name with
  | some j => asOption decode j
  | none => if r.positional then none else some none

def defaulted {α : Type} (r : Record) (name : String) (decode : Json → Option α) (value : α) :
    Option α :=
  match r.fields.lookup name with
  | some j => decode j
  | none => some value

end Record

end MultiWallet.Json
