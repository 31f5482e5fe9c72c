import MultiWallet.Processor
import MultiWallet.Text.Quoted

set_option autoImplicit false

namespace MultiWallet.Description

def record (name : String) (fields : List (String × String)) : String :=
  name ++ " \x7b " ++ ", ".intercalate (fields.map fun (field, value) => field ++ ": " ++ value) ++
    " \x7d"

def wrapped (name inner : String) : String := name ++ "(" ++ inner ++ ")"

def ofBool (b : Bool) : String := if b then "true" else "false"

def ofCurrency : Currency → String
  | .btc => "Btc"
  | .bch => "Bch"
  | .eth => "Eth"
  | .xlm => "Xlm"
  | .stx => "Stx"

def ofCustody : Custody → String
  | .nonCustodial => "NonCustodial"
  | .custodial => "Custodial"

def ofAsset (a : Asset) : String :=
  record "CryptoAsset" [("currency", ofCurrency a.currency), ("enabled", ofBool a.enabled)]

def ofAddress (a : Address) : String :=
  record "CryptoAddress"
    [("currency", ofCurrency a.currency), ("address", Text.quoted a.text),
     ("memo", Text.quotedOption a.memo)]

variable (idText : Nat → String)

def ofCrypto (a : CryptoAccount) : String :=
  record "CryptoAccount"
    [("id", idText a.id), ("label", Text.quoted a.label), ("currency", ofCurrency a.currency),
     ("custody", ofCustody a.custody)]

def ofInterest (a : InterestAccount) : String :=
  record "InterestAccount"
    [("id", idText a.id), ("label", Text.quoted a.label), ("currency", ofCurrency a.currency)]

def ofFiat (a : FiatAccount) : String :=
  record "FiatAccount"
    [("id", idText a.id), ("label", Text.quoted a.label), ("fiat_currency", Text.quoted a.code)]

def ofAccount : Account → String
  | .crypto a => wrapped "Crypto" (ofCrypto idText a)
  | .interest a => wrapped "Interest" (ofInterest idText a)
  | .fiat a => wrapped "Fiat" (ofFiat idText a)

def ofTarget : Target → String
  | .account a => wrapped "Account" (ofAccount idText a)
  | .address a => wrapped "Address" (ofAddress a)

def ofProcessor (p : Processor) : String :=
  record "TransactionProcessor"
    [("id", idText p.id), ("source", ofCrypto idText p.source), ("target", ofTarget idText p.target),
     ("action", p.action.title)]

end MultiWallet.Description
