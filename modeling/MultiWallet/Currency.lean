import MultiWallet.Text.CaseFold

set_option autoImplicit false

namespace MultiWallet

inductive Currency where
  | btc
  | bch
  | eth
  | xlm
  | stx
deriving DecidableEq, Repr

namespace Currency

def all : List Currency := [btc, bch, eth, xlm, stx]

def ticker : Currency → String
  | btc => "BTC"
  | bch => "BCH"
  | eth => "ETH"
  | xlm => "XLM"
  | stx => "STX"

def name : Currency → String
  | btc => "Bitcoin"
  | bch => "Bitcoin Cash"
  | eth => "Ether"
  | xlm => "Stellar"
  | stx => "Stacks"

def places : Currency → Nat
  | btc | bch | stx => 8
  | eth => 18
  | xlm => 7

theorem places_lt (c : Currency) : c.places < 29 := by cases c <;> decide

theorem ticker_injective {a b : Currency} (h : a.ticker = b.ticker) : a = b := by
  cases a <;> cases b <;> simp_all [ticker]

def ofTicker? (text : String) : Option Currency :=
  all.find? fun c => Text.sameIgnoringCase c.ticker text

theorem ofTicker?_ticker (c : Currency) : ofTicker? c.ticker = some c := by
  cases c <;> decide

def ofExactTicker? (text : String) : Option Currency := all.find? fun c => c.ticker == text

end Currency

end MultiWallet
