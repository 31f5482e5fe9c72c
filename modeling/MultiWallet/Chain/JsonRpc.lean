import MultiWallet.Dialogue.Basic
import MultiWallet.Http.Url
import MultiWallet.Json.Decimal
import MultiWallet.Text.Hex
import MultiWallet.Text.Quoted

set_option autoImplicit false

namespace MultiWallet.JsonRpc

structure Error where
  code : Int
  message : String
  data : Option Json

inductive Response where
  | result (value : Json)
  | error (e : Error)

def request (method : String) (params : Json) : Json :=
  .object
    [("jsonrpc", .string "2.0"), ("id", .ofNat 1), ("method", .string method),
     ("params", params)]

def readError (j : Json) : Option Error := do
  let r ← Json.Record.ofJson? ["code", "message", "data"] j
  return {
    code := ← r.required "code" (Json.intBetween (-2 ^ 63) (2 ^ 63 - 1))
    message := ← r.required "message" Json.asText
    -- The value lies in two objects already.
    data := ← r.defaulted "data" (Json.asOption (Json.asReadable (Json.openLimit - 2))) none }

def responseFields : List String := ["jsonrpc", "id", "result", "error", "method", "params"]

def readResponse (j : Json) : Option Response := do
  let members ← match j with
    | .object members => some members
    | _ => none
  if members.all (fun (name, _) => responseFields.elem name) then
    let r ← Json.Record.ofJson? responseFields j
    let version ← r.required "jsonrpc" Json.asText
    let _ ← r.required "id" Json.asUInt64
    if version = "2.0" then
      let isCall := ["method", "params"].any fun name => (r.fields.lookup name).isSome
      match isCall, r.fields.lookup "result", r.fields.lookup "error" with
      | false, some value, none => some (.result value)
      | false, none, some e => (readError e).map .error
      | _, _, _ => none
    else none
  else none

-- Members are kept by name, and of a repeated name the later one counts.
def insertMember (name text : String) : List (String × String) → List (String × String)
  | [] => [(name, text)]
  | (n, t) :: rest =>
    if name < n then (name, text) :: (n, t) :: rest
    else if name = n then (n, t) :: rest
    else (n, t) :: insertMember name text rest

def describeMember (member : String × String) : String :=
  Text.quoted member.1 ++ ": " ++ member.2

mutual

def describe : Json → String
  | .null | .unreadable => "Null"
  | .bool true => "Bool(true)"
  | .bool false => "Bool(false)"
  | .number n => "Number(" ++ n.toText ++ ")"
  | .string s => "String(" ++ Text.quoted s ++ ")"
  | .array items => "Array [" ++ ", ".intercalate (describeItems items) ++ "]"
  | .object members =>
    "Object \x7b" ++ ", ".intercalate ((describeMembers members).map describeMember) ++ "\x7d"

def describeItems : List Json → List String
  | [] => []
  | j :: rest => describe j :: describeItems rest

def describeMembers : List (String × Json) → List (String × String)
  | [] => []
  | (name, value) :: rest => insertMember name (describe value) (describeMembers rest)

end

def Error.text (e : Error) : String :=
  let data := match e.data with
    | some j => "Some(" ++ describe j ++ ")"
    | none => "None"
  "(code: " ++ toString e.code ++ ", message: " ++ e.message ++ ", data: " ++ data ++ ")"

def unreadable : String := "Deserialization Error"

def unsent : String := "error sending request"

def call {α : Type} (currency : Currency) (url method : String) (params : Json)
    (decode : Json → Option α) : Dialogue α :=
  match Http.refusal? url with
  | some refusal => Dialogue.fail (.network currency refusal)
  | none => do
    let body := request method params
    let outcome : Http.Outcome ← Dialogue.ask (.http (Http.postJson url none body))
    match outcome with
    | .unreachable => Dialogue.fail (.network currency unsent)
    | .reply r =>
      match (Json.ofString r.body).bind readResponse with
      | none => Dialogue.fail (.network currency unreadable)
      | some (.error e) => Dialogue.fail (.network currency e.text)
      | some (.result value) =>
        match decode value with
        | some a => return a
        | none => Dialogue.fail (.network currency unreadable)

def hexDigits? : Json → Option (List Char)
  | .string s =>
    let digits := match s.toList with
      | '0' :: 'x' :: digits => digits
      | digits => digits
    if digits.all (fun c => (Text.hexValueOf? c).isSome) then some digits else none
  | _ => none

def readQuantity (width : Nat) (j : Json) : Option Nat := do
  let digits ← hexDigits? j
  if digits ≠ [] ∧ digits.length ≤ width then
    return digits.foldl (fun n c => n * 16 + (Text.hexValueOf? c).getD 0) 0
  else none

def readHash (j : Json) : Option String := do
  let digits ← hexDigits? j
  if digits.length = 64 then return String.ofList ('0' :: 'x' :: digits.map Char.toLower)
  else none

end MultiWallet.JsonRpc
