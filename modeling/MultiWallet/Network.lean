import MultiWallet.Text.CaseFold

set_option autoImplicit false

namespace MultiWallet

inductive Network where
  | test
  | main
deriving DecidableEq, Repr

namespace Network

def ofUrl (url : String) : Network :=
  if Text.occursIn ['t', 'e', 's', 't'] (Text.foldCase url) then test else main

def name : Network → String
  | test => "test"
  | main => "main"

def passphrase : Network → String
  | test => "Test SDF Network ; September 2015"
  | main => "Public Global Stellar Network ; September 2015"

def evmChainId : Network → UInt64
  | test => 11155111
  | main => 1

end Network

end MultiWallet
