set_option autoImplicit false

namespace MultiWallet.Text

def foldCase (text : String) : List Char := text.toList.map Char.toLower

def sameIgnoringCase (a b : String) : Bool := foldCase a == foldCase b

def occursIn (part : List Char) : List Char → Bool
  | [] => part.isEmpty
  | c :: rest => part.isPrefixOf (c :: rest) || occursIn part rest

end MultiWallet.Text
