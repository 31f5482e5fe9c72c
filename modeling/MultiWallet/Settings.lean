import MultiWallet.Json.Decode
import MultiWallet.Labels
import MultiWallet.Text.Quoted
import MultiWallet.Toml.Document

set_option autoImplicit false

namespace MultiWallet

abbrev Environment := String → Option String

namespace Environment

def startsName (c : Char) : Bool := c.isUpper || c == '_'

def continuesName (c : Char) : Bool := startsName c || c.isDigit

def reference? : List Char → Option (String × List Char)
  | c :: rest =>
    if startsName c then
      match rest.dropWhile continuesName with
      | '}' :: after => some (String.ofList (c :: rest.takeWhile continuesName), after)
      | _ => none
    else none
  | [] => none

theorem length_of_reference? {text after : List Char} {name : String}
    (h : reference? text = some (name, after)) : after.length < text.length := by
  unfold reference? at h
  split at h
  next c rest =>
    split at h
    · split at h
      next rest' hr =>
        simp only [Option.some.injEq, Prod.mk.injEq] at h
        have := (List.dropWhile_suffix (l := rest) continuesName).length_le
        rw [hr, h.2] at this
        simp only [List.length_cons] at *
        omega
      · cases h
    · cases h
  · cases h

def fillIn (env : Environment) (text : List Char) : List Char :=
  match text with
  | '$' :: '{' :: rest =>
    match _h : reference? rest with
    | some (name, after) => ((env name).getD "").toList ++ fillIn env after
    | none => '$' :: fillIn env ('{' :: rest)
  | c :: rest => c :: fillIn env rest
  | [] => []
termination_by text.length
decreasing_by
  · have := length_of_reference? _h
    simp only [List.length_cons]
    omega
  · simp
  · simp

end Environment

structure ApiSettings where
  enabled : Bool
  host : String
  port : UInt16
deriving DecidableEq, Repr

structure MetricSettings where
  enabled : Bool
  port : UInt16
deriving DecidableEq, Repr

structure LogSettings where
  level : String := "info,coincore=debug,hyper=warn"
  json : Bool := false
deriving DecidableEq, Repr

structure CustodianSettings where
  base : String
  token : String
  timeout : UInt64
deriving DecidableEq, Repr

structure ServiceSettings where
  url : String
  timeout : UInt64
deriving DecidableEq, Repr

structure AssetSettings where
  currency : Currency
  enabled : Bool
  networkUrl : Option String
  feePreference : Option Int
  gasLimit : Option UInt64
  timeout : UInt64
deriving DecidableEq, Repr

structure Settings where
  api : ApiSettings
  metrics : MetricSettings
  log : LogSettings
  labels : Labels
  payloadPath : String
  custodian : CustodianSettings
  fees : ServiceSettings
  signer : ServiceSettings
  assets : List AssetSettings
deriving DecidableEq, Repr

inductive SettingsError where
  | unreadable (path : String)
  | malformed
  | nothingEnabled
  | repeated (currency : Currency)
  | noNetworkUrl (currency : Currency)
  | noPayloadPath
deriving DecidableEq, Repr

def SettingsError.message : SettingsError → String
  | unreadable path => "Failed to read config file: " ++ Text.quotedPath path
  | malformed => "Failed to parse configuration"
  | nothingEnabled => "At least one asset must be enabled"
  | repeated currency => "Asset " ++ currency.ticker ++ " is configured more than once"
  | noNetworkUrl currency => "Asset " ++ currency.ticker ++ " has no network URL configured"
  | noPayloadPath => "Wallet payload path is empty"

def AssetSettings.needsNetwork (a : AssetSettings) : Bool := a.currency != .stx

namespace Settings

def defaultTimeout : UInt64 := 30

def asPort (j : Json) : Option UInt16 :=
  (j.intBetween 0 (2 ^ 16 - 1)).map fun n => UInt16.ofNat n.toNat

def apiFields : List String := ["enabled", "host", "port"]

def readApi (j : Json) : Option ApiSettings := do
  let r ← Json.Record.ofJson? apiFields j
  return {
    enabled := ← r.required "enabled" Json.asBool
    host := ← r.required "host" Json.asText
    port := ← r.required "port" asPort }

def metricFields : List String := ["enabled", "port"]

def readMetrics (j : Json) : Option MetricSettings := do
  let r ← Json.Record.ofJson? metricFields j
  return { enabled := ← r.required "enabled" Json.asBool, port := ← r.required "port" asPort }

def logFields : List String := ["level", "json"]

def readLog (j : Json) : Option LogSettings := do
  let r ← Json.Record.ofJson? logFields j
  return { level := ← r.required "level" Json.asText, json := ← r.required "json" Json.asBool }

def labelFields : List String :=
  ["non_custodial", "custodial", "interest", "asset_group", "fiat", "fiat_group", "all_wallets"]

def readLabels (j : Json) : Option Labels := do
  let r ← Json.Record.ofJson? labelFields j
  let labels : Labels := {}
  return {
    nonCustodial := ← r.defaulted "non_custodial" Json.asText labels.nonCustodial
    custodial := ← r.defaulted "custodial" Json.asText labels.custodial
    interest := ← r.defaulted "interest" Json.asText labels.interest
    assetGroup := ← r.defaulted "asset_group" Json.asText labels.assetGroup
    fiat := ← r.defaulted "fiat" Json.asText labels.fiat
    fiatGroup := ← r.defaulted "fiat_group" Json.asText labels.fiatGroup
    allWallets := ← r.defaulted "all_wallets" Json.asText labels.allWallets }

def walletFields : List String := ["payload_path"]

def readPayloadPath (j : Json) : Option String := do
  (← Json.Record.ofJson? walletFields j).required "payload_path" Json.asText

def custodianFields : List String := ["base_url", "auth_token", "timeout_secs"]

def readCustodian (j : Json) : Option CustodianSettings := do
  let r ← Json.Record.ofJson? custodianFields j
  return {
    base := ← r.required "base_url" Json.asText
    token := ← r.required "auth_token" Json.asText
    timeout := ← r.defaulted "timeout_secs" Json.asUInt64 defaultTimeout }

def serviceFields : List String := ["url", "timeout_secs"]

def readService (j : Json) : Option ServiceSettings := do
  let r ← Json.Record.ofJson? serviceFields j
  return {
    url := ← r.required "url" Json.asText
    timeout := ← r.defaulted "timeout_secs" Json.asUInt64 defaultTimeout }

-- A currency is a ticker, or a table of one entry, under the ticker, that holds nothing.
def asCurrency : Json → Option Currency
  | .string s => Currency.ofExactTicker? s
  | .object [(name, .object [])] | .object [(name, .array [])] => Currency.ofExactTicker? name
  | _ => none

def assetFields : List String :=
  ["currency", "enabled", "network_url", "fee_preference", "gas_limit", "timeout_secs"]

def readAsset (j : Json) : Option AssetSettings := do
  let r ← Json.Record.ofJson? assetFields j
  return {
    currency := ← r.required "currency" asCurrency
    enabled := ← r.defaulted "enabled" Json.asBool true
    networkUrl := ← r.optional "network_url" Json.asText
    feePreference := ← r.optional "fee_preference" (Json.intBetween (-2 ^ 31) (2 ^ 31 - 1))
    gasLimit := ← r.optional "gas_limit" Json.asUInt64
    timeout := ← r.defaulted "timeout_secs" Json.asUInt64 defaultTimeout }

def sections : List String :=
  ["api", "metrics", "logging", "labels", "wallet", "custodial", "fees", "signer", "assets"]

def ofJson? (j : Json) : Option Settings := do
  let r ← Json.Record.ofJson? sections j
  return {
    api := ← r.required "api" readApi
    metrics := ← r.required "metrics" readMetrics
    log := ← r.defaulted "logging" readLog {}
    labels := ← r.defaulted "labels" readLabels {}
    payloadPath := ← r.required "wallet" readPayloadPath
    custodian := ← r.required "custodial" readCustodian
    fees := ← r.required "fees" readService
    signer := ← r.required "signer" readService
    assets := ← r.required "assets" (Json.asArray readAsset) }

def enabledAssets (s : Settings) : List AssetSettings := s.assets.filter (·.enabled)

def checkAssets : List AssetSettings → (seen : List Currency) → Except SettingsError Unit
  | [], _ => .ok ()
  | a :: rest, seen =>
    if seen.elem a.currency then .error (.repeated a.currency)
    else if a.needsNetwork ∧ (a.networkUrl.getD "").isEmpty then .error (.noNetworkUrl a.currency)
    else checkAssets rest (a.currency :: seen)

def validate (s : Settings) : Except SettingsError Unit := do
  if s.enabledAssets.isEmpty then throw .nothingEnabled
  checkAssets s.assets []
  if s.payloadPath.isEmpty then throw .noPayloadPath

def ofText (env : Environment) (text : String) : Except SettingsError Settings := do
  match (Toml.read (env.fillIn text.toList)).bind ofJson? with
  | none => throw .malformed
  | some settings =>
    settings.validate
    return settings

def pathVariable : String := "COINCORE_CONFIG"

def path (env : Environment) : String := (env pathVariable).getD "config/default.toml"

end Settings

end MultiWallet
