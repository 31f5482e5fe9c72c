import MultiWallet.Http
import MultiWallet.Text.Utf8

set_option autoImplicit false

namespace MultiWallet.Http

def bytesOf (text : List Char) : List UInt8 := (String.ofList text).toUTF8.toList

-- A percent sign without two hexadecimal digits behind it stands for itself.
def unescape : List UInt8 → List UInt8
  | b :: c :: d :: rest =>
    if b = 0x25 then
      match Text.hexValueOf? (Char.ofNat c.toNat), Text.hexValueOf? (Char.ofNat d.toNat) with
      | some high, some low => UInt8.ofNat (high * 16 + low) :: unescape rest
      | _, _ => b :: unescape (c :: d :: rest)
    else b :: unescape (c :: d :: rest)
  | bytes => bytes

def decodeSegment? (text : String) : Option String := Text.ofUtf8? (unescape (bytesOf text.toList))

def decodeForm (text : List Char) : String :=
  Text.ofUtf8 (unescape (bytesOf (text.map fun c => if c = '+' then ' ' else c)))

def splitField (piece : List Char) : String × String :=
  (decodeForm (piece.takeWhile (· != '=')), decodeForm ((piece.dropWhile (· != '=')).drop 1))

def fields (query : String) : List (String × String) :=
  ((query.splitOn "&").filter (!·.isEmpty)).map fun piece => splitField piece.toList

def encodeExcept (marks : List Char) (c : Char) : List Char :=
  if c.toNat < 0x20 ∨ 0x7e < c.toNat ∨ marks.elem c then c.toString.toUTF8.toList.flatMap percent
  else [c]

end MultiWallet.Http
