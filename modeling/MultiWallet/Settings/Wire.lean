import MultiWallet.Amount.Wire
import MultiWallet.Settings

set_option autoImplicit false

namespace MultiWallet

def Labels.toJson (l : Labels) : Json :=
  .object
    [("non_custodial", .string l.nonCustodial),
     ("custodial", .string l.custodial),
     ("interest", .string l.interest),
     ("asset_group", .string l.assetGroup),
     ("fiat", .string l.fiat),
     ("fiat_group", .string l.fiatGroup),
     ("all_wallets", .string l.allWallets)]

def ServiceSettings.toJson (s : ServiceSettings) : Json :=
  .object [("url", .string s.url), ("timeout_secs", .ofUInt64 s.timeout)]

def CustodianSettings.toJson (s : CustodianSettings) : Json :=
  .object
    [("base_url", .string s.base), ("auth_token", .string s.token),
     ("timeout_secs", .ofUInt64 s.timeout)]

def AssetSettings.toJson (a : AssetSettings) : Json :=
  .object
    [("currency", a.currency.toJson),
     ("enabled", .bool a.enabled),
     ("network_url", .ofOption .string a.networkUrl),
     ("fee_preference", .ofOption .ofInt a.feePreference),
     ("gas_limit", .ofOption .ofUInt64 a.gasLimit),
     ("timeout_secs", .ofUInt64 a.timeout),
     ("needs_network", .bool a.needsNetwork)]

def Settings.toJson (s : Settings) : Json :=
  .object
    [("api", .object
       [("enabled", .bool s.api.enabled), ("host", .string s.api.host),
        ("port", .ofNat s.api.port.toNat)]),
     ("metrics", .object
       [("enabled", .bool s.metrics.enabled), ("port", .ofNat s.metrics.port.toNat)]),
     ("logging", .object [("level", .string s.log.level), ("json", .bool s.log.json)]),
     ("labels", s.labels.toJson),
     ("wallet", .object [("payload_path", .string s.payloadPath)]),
     ("custodial", s.custodian.toJson),
     ("fees", s.fees.toJson),
     ("signer", s.signer.toJson),
     ("assets", .array (s.assets.map AssetSettings.toJson)),
     ("enabled", .array (s.enabledAssets.map (·.currency.toJson)))]

end MultiWallet
