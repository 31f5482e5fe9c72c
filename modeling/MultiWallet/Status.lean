import MultiWallet.Http.Percent
import MultiWallet.Registry.Basic

set_option autoImplicit false

namespace MultiWallet.Status

inductive Body where
  | empty
  | text (s : String)
  | health
  | assets (assets : List Asset)
  | wallets (group : AccountGroup)
  | account (account : Account)
  | problem (message : String)
deriving DecidableEq, Repr

structure Response where
  status : Nat
  body : Body
  -- Only what stands above the body is sent.
  withoutBody : Bool := false
deriving DecidableEq, Repr

def version : String := "0.1.0"

def assetToJson (a : Asset) : Json :=
  .object
    [("currency", .string a.currency.ticker), ("name", .string a.currency.name),
     ("enabled", .bool a.enabled)]

def accountToJson (idText : Nat → String) (a : Account) : Json :=
  .object
    [("id", .string (idText a.id)), ("label", .string a.label), ("kind", .string a.kind),
     ("currency", .ofOption (fun c => .string c.ticker) a.currency?),
     ("custodial", .bool a.isCustodial)]

def Body.render (idText : Nat → String) : Body → String
  | empty => ""
  | text s => s
  | health => (Json.object [("status", .string "ok"), ("version", .string version)]).render
  | assets list => (Json.object [("assets", .array (list.map assetToJson))]).render
  | wallets group =>
    (Json.object
      [("label", .string group.label),
       ("accounts", .array (group.accounts.map (accountToJson idText)))]).render
  | account a => (accountToJson idText a).render
  | problem message => (Json.object [("error", .string message)]).render

def Response.text (idText : Nat → String) (r : Response) : String :=
  if r.withoutBody then "" else r.body.render idText

inductive Page where
  | health
  | assets
  | wallets
  | accounts (ticker : String)
deriving DecidableEq, Repr

def Page.ofPath? (path : String) : Option Page :=
  match path.splitOn "/" with
  | ["", "health"] => some .health
  | ["", "assets"] => some .assets
  | ["", "wallets"] => some .wallets
  | ["", "assets", ticker, "accounts"] => some (.accounts ticker)
  | _ => none

def queryProblem (detail : String) : Response :=
  { status := 400, body := .text ("Failed to deserialize query string: " ++ detail) }

def readAddress (query : String) : Except Response String :=
  match (Http.fields query).filter (·.1 == "address") with
  | [(_, address)] => .ok address
  | [] => .error (queryProblem "missing field \u0060address\u0060")
  | _ => .error (queryProblem "duplicate field \u0060address\u0060")

def refuse (status : Nat) (message : String) : Response := { status, body := .problem message }

def ofFailure (cause : Failure) : Response :=
  refuse (if cause.isContractViolation then 400 else 502) cause.message

def wallets (r : Registry) : Dialogue Response := do
  match ← r.allWallets.attempt with
  | .ok group => return { status := 200, body := .wallets group }
  | .error cause => return ofFailure cause

def findAccount (r : Registry) (ticker query : String) : Dialogue Response :=
  match Http.decodeSegment? ticker with
  | none =>
    return { status := 400, body := .text "Invalid URL: Invalid UTF-8 in \u0060currency\u0060" }
  | some ticker =>
    match readAddress query, Currency.ofTicker? ticker with
    | .error response, _ => return response
    | .ok _, none => return refuse 400 (Failure.unknownTicker ticker).message
    | .ok address, some currency => do
      match ← (r.findByAddress currency address).attempt with
      | .ok (some account) => return { status := 200, body := .account account }
      | .ok none => return refuse 404 ("No " ++ currency.ticker ++ " account for " ++ address)
      | .error cause => return ofFailure cause

def visit (r : Registry) (page : Page) (query : String) : Dialogue Response :=
  match page with
  | .health => return { status := 200, body := .health }
  | .assets => return { status := 200, body := .assets r.assets }
  | .wallets => wallets r
  | .accounts ticker => findAccount r ticker query

def respond (r : Registry) (method target : String) : Dialogue Response :=
  let path := target.toList.takeWhile (· != '?')
  let query := (target.toList.dropWhile (· != '?')).drop 1
  match Page.ofPath? (String.ofList path) with
  | none => return { status := 404, body := .empty }
  | some page =>
    let query := String.ofList query
    if method = "GET" then visit r page query
    else if method = "HEAD" then return { ← visit r page query with withoutBody := true }
    else return { status := 405, body := .empty }

end MultiWallet.Status
