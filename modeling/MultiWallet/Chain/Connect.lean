import MultiWallet.Chain
import MultiWallet.Http.Url

set_option autoImplicit false

namespace MultiWallet.ChainClient

def indexerAt (currency : Currency) (url : String) : ChainClient :=
  .indexer currency (Http.trimSlashes url)

def stellarAt (url : String) : ChainClient :=
  .stellar (.http (Http.trimSlashes url)) (.ofUrl url)

def evmAt (currency : Currency) (url : String) (gasLimit : Option UInt64) : Checked ChainClient :=
  match Http.Url.parse url with
  | .ok _ => .ok (.evm currency url (gasLimit.getD Evm.transferGas))
  | .error problem => fail (.config ("invalid RPC url " ++ url ++ ": " ++ problem.message))

end MultiWallet.ChainClient
