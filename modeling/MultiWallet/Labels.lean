import MultiWallet.Currency

set_option autoImplicit false

namespace MultiWallet

structure Labels where
  nonCustodial : String := "My \x7bname\x7d Wallet"
  custodial : String := "\x7bname\x7d Trading Wallet"
  interest : String := "\x7bname\x7d Interest Account"
  assetGroup : String := "\x7bname\x7d Wallets"
  fiat : String := "\x7bticker\x7d Wallet"
  fiatGroup : String := "Fiat Wallets"
  allWallets : String := "All Wallets"
deriving DecidableEq, Repr

namespace Labels

def fillName (template name : String) : String := template.replace "\x7bname\x7d" name

def fillTicker (template ticker : String) : String := template.replace "\x7bticker\x7d" ticker

def render (template : String) (currency : Currency) : String :=
  fillTicker (fillName template currency.name) currency.ticker

def nonCustodialFor (labels : Labels) (currency : Currency) : String :=
  render labels.nonCustodial currency

def custodialFor (labels : Labels) (currency : Currency) : String :=
  render labels.custodial currency

def interestFor (labels : Labels) (currency : Currency) : String :=
  render labels.interest currency

def assetGroupFor (labels : Labels) (currency : Currency) : String :=
  render labels.assetGroup currency

def fiatFor (labels : Labels) (code : String) : String := fillTicker labels.fiat code

def filled (labels : Labels) (currency : Currency) (code : String) : Labels :=
  { nonCustodial := labels.nonCustodialFor currency
    custodial := labels.custodialFor currency
    interest := labels.interestFor currency
    assetGroup := labels.assetGroupFor currency
    fiat := labels.fiatFor code
    fiatGroup := labels.fiatGroup
    allWallets := labels.allWallets }

end Labels

end MultiWallet
