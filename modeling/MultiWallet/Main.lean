import MultiWallet.Asset.Configured
import MultiWallet.Settings.Wire
import MultiWallet.Status

set_option autoImplicit false

namespace MultiWallet.CommandLine

def offline : Oracle := fun _ c =>
  match c with
  | .http _ => Http.Outcome.unreachable
  | .report _ _ => ()
  | .walletEntries _ | .custodianReachable | .fiatCurrencies | .tradingBalance _
  | .interestBalance _ | .fiatBalance _ | .depositAddress _ | .withdrawalFee _ | .withdraw _ _ _
  | .placeOrder _ | .feeSchedule _ | .sign _ | .accountAddress _ | .accountBalance _
  | .accountActivity _ | .chainHealth _ | .chainExists _ _ | .chainBalance _ _
  | .chainHistory _ _ | .chainBuild _ _ | .chainSubmit _ _ | .chainMaximum _ _ _
  | .stellarRoot _ | .stellarAccount _ _ | .stellarOperations _ _ | .stellarSubmit _ _
  | .assetInit _ | .assetNonCustodial _ _ | .assetCustodial _ _ | .assetInterest _ _
  | .assetEngine _ | .engineValidate _ | .engineFee _ _ _ | .engineMaximum _ _
  | .engineExecute _ _ _ => .error (.internal "no such party")

def parties (settings : Settings) (payload : Payload) : Parties :=
  { records := .payload payload
    custodian := .ofUrl settings.custodian.base settings.custodian.token
    signer := .ofUrl settings.signer.url
    fees := .ofUrl settings.fees.url
    reporter := .counting }

def registry (settings : Settings) (payload : Payload) : Checked Registry := do
  let parties := parties settings payload
  let assets ← settings.assets.mapM (Asset.ofSettings parties)
  Registry.make parties.records parties.custodian parties.reporter settings.labels assets

def session (settings : Settings) : Session :=
  { Session.empty with registered := settings.assets.map fun a => (a.currency, a.enabled) }

def readRequest (line : String) : String × String :=
  match line.splitOn " " with
  | [target] => ("GET", target)
  | method :: target :: _ => (method, target)
  | [] => ("GET", "")

def answer (r : Registry) (line : String) : Dialogue String := do
  let (method, target) := readRequest line
  let response ← Status.respond r method target
  return Http.statusText response.status ++ "\n" ++ response.text toString

def haltText : Halt → String
  | .failure cause => cause.message
  | .overflow => "arithmetic overflow"

def references : List Char → List String
  | [] => []
  | c :: rest =>
    match c, rest with
    | '$', '{' :: inner =>
      ((Environment.reference? inner).map (·.1)).toList ++ references rest
    | _, _ => references rest

def readEnvironment (names : List String) : IO Environment := do
  let values ← names.mapM fun name => return (name, ← IO.getEnv name)
  return fun name => (values.lookup name).join

def readSettings : IO (Except String Settings) := do
  let path := Settings.path (← readEnvironment [Settings.pathVariable])
  match ← (IO.FS.readFile path).toBaseIO with
  | .error _ => return .error (SettingsError.unreadable path).message
  | .ok text =>
    let env ← readEnvironment (references text.toList)
    return (Settings.ofText env text).mapError SettingsError.message

def readPayload (settings : Settings) : IO (Except String Payload) := do
  match ← (IO.FS.readFile settings.payloadPath).toBaseIO with
  | .error _ => return .error Payload.unreadable.message
  | .ok text => return (Payload.ofText text).mapError haltText

partial def serve (r : Registry) (s : Session) : IO Unit := do
  let line ← (← IO.getStdin).getLine
  if line.isEmpty then return ()
  let (text, s) := (answer r line.trimAscii.toString).run offline s
  match text with
  | .ok text => IO.println text
  | .error halt => IO.eprintln (haltText halt)
  serve r s

def stop (reason : String) : IO UInt32 := do
  IO.eprintln ("Error: " ++ reason)
  return 1

def start (settings : Settings) (r : Registry) : IO UInt32 := do
  let (prepared, s) := r.prepare.run offline (session settings)
  match prepared with
  | .ok () =>
    serve r s
    return 0
  | .error halt => stop (haltText halt)

def openWallet (settings : Settings) : IO UInt32 := do
  match ← readPayload settings with
  | .error reason => stop reason
  | .ok payload =>
    match registry settings payload with
    | .error halt => stop (haltText halt)
    | .ok r => start settings r

end MultiWallet.CommandLine

open MultiWallet CommandLine

def main (args : List String) : IO UInt32 := do
  match ← readSettings with
  | .error reason => stop reason
  | .ok settings =>
    if args = ["settings"] then
      IO.println settings.toJson.render
      return 0
    else openWallet settings
