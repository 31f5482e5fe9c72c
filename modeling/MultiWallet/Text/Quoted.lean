import MultiWallet.Text.Hex
import MultiWallet.Text.Hidden

set_option autoImplicit false

namespace MultiWallet.Text

def escapeCode (c : Char) : List Char :=
  '\\' :: 'u' :: '\x7b' :: Nat.toDigits 16 c.toNat ++ ['\x7d']

def escapeQuoted (quote : Char) (c : Char) : List Char :=
  if c = quote ∨ c = '\\' then ['\\', c]
  else if c = '\n' then ['\\', 'n']
  else if c = '\r' then ['\\', 'r']
  else if c = '\t' then ['\\', 't']
  else if c.toNat = 0 then ['\\', '0']
  else if isHidden c then escapeCode c
  else [c]

def quoted (text : String) : String :=
  String.ofList ('"' :: text.toList.flatMap (escapeQuoted '"') ++ ['"'])

def quotedPath (path : String) : String :=
  let escape (c : Char) := if c = '\'' then ['\\', c] else escapeQuoted '"' c
  String.ofList ('"' :: path.toList.flatMap escape ++ ['"'])

def quotedChar (c : Char) : String := String.ofList ('\'' :: escapeQuoted '\'' c ++ ['\''])

def quotedOption : Option String → String
  | none => "None"
  | some text => "Some(" ++ quoted text ++ ")"

end MultiWallet.Text
