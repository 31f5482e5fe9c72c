import MultiWallet.Asset.Basic
import MultiWallet.Chain.Connect
import MultiWallet.Settings

set_option autoImplicit false

namespace MultiWallet

def AssetSettings.address (a : AssetSettings) : Checked String :=
  orFail (.config (a.currency.ticker ++ " has no network URL"))
    (a.networkUrl.filter fun url => !url.isEmpty)

def AssetSettings.kind (a : AssetSettings) : Checked AssetKind :=
  match a.currency with
  | .btc | .bch => do
    return .onChain (.indexerAt a.currency (← a.address)) a.feePreference
  | .eth => do
    return .onChain (← ChainClient.evmAt a.currency (← a.address) a.gasLimit) a.feePreference
  | .xlm => do
    return .stellar (.stellarAt (← a.address)) a.feePreference
  | .stx => .ok .stacks

def Asset.ofSettings (parties : Parties) (a : AssetSettings) : Checked Asset := do
  return { currency := a.currency, enabled := a.enabled, kind := ← a.kind, parties }

end MultiWallet
