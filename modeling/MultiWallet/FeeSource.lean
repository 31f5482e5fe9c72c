import MultiWallet.Amount.Wire
import MultiWallet.Dialogue.Basic
import MultiWallet.Http.Url

set_option autoImplicit false

namespace MultiWallet

inductive FeeSource where
  | external
  | http (base : String)
deriving DecidableEq, Repr

namespace FeeSource

def ofUrl (url : String) : FeeSource := http (Http.trimSlashes url)

def readSchedule (currency : Currency) (j : Json) : Option FeeSchedule := do
  let r ← Json.Record.ofJson? ["regular", "priority", "limits", "gasLimit"] j
  return {
    currency
    regular := ← r.required "regular" Json.asDecimal
    priority := ← r.required "priority" Json.asDecimal
    limits := ← r.defaulted "limits" (Json.asOption FeeLimits.ofJson?) none
    gasLimit := ← r.defaulted "gasLimit" (Json.asOption Json.asUInt64) none }

def url (base : String) (currency : Currency) : String :=
  base ++ "/mempool/fees/" ++ String.ofList (Text.foldCase currency.ticker)

def statusProblem (status : Nat) (url : String) : String :=
  let side := if status < 500 then "client" else "server"
  "HTTP status " ++ side ++ " error (" ++ Http.statusText status ++ ") for url (" ++ url ++ ")"

def schedule (source : FeeSource) (currency : Currency) : Dialogue FeeSchedule :=
  match source with
  | external => do
    let answer : Answer FeeSchedule ← Dialogue.ask (.feeSchedule currency)
    Dialogue.ofAnswer answer
  | http base => do
    let url := url base currency
    match Http.refusal? url with
    | some refusal => Dialogue.fail (.feeLookup currency refusal)
    | none => do
      let outcome : Http.Outcome ← Dialogue.ask (.http (Http.get url none))
      match outcome with
      | .unreachable => Dialogue.fail (.feeLookup currency "error sending request")
      | .reply r =>
        if r.isError then Dialogue.fail (.feeLookup currency (statusProblem r.status url))
        else
          match (Json.ofString r.body).bind (readSchedule currency) with
          | some schedule => return schedule
          | none => Dialogue.fail (.feeLookup currency "error decoding response body")

end FeeSource

end MultiWallet
