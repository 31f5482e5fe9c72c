import MultiWallet.Http.Host.Basic

set_option autoImplicit false

namespace MultiWallet.Http

inductive UrlProblem where
  | noScheme
  | badPort
  | host (problem : Host.Problem)
deriving DecidableEq, Repr

def UrlProblem.message : UrlProblem → String
  | noScheme => "relative URL without a base"
  | badPort => "invalid port number"
  | host problem => problem.message

inductive Place where
  | absent
  | unnamed
  | located (host : Host) (port : Option Nat)
deriving DecidableEq, Repr

inductive UrlPath where
  | segments (names : List String)
  | rootless (text : String)
deriving DecidableEq, Repr

structure Url where
  scheme : String
  place : Place
  path : UrlPath
  query : Option String
  fragment : Option String
deriving DecidableEq, Repr

namespace Url

inductive Kind where
  | web
  | file
  | other
deriving DecidableEq, Repr

def ports : List (String × Nat) :=
  [("http", 80), ("https", 443), ("ws", 80), ("wss", 443), ("ftp", 21)]

def Kind.ofScheme (scheme : String) : Kind :=
  if (ports.lookup scheme).isSome then .web else if scheme = "file" then .file else .other

def isSchemeChar (c : Char) : Bool := c.isAlphanum || c == '+' || c == '-' || c == '.'

def isSlash (c : Char) : Bool := c == '/' || c == '\\'

def isParting (kind : Kind) (c : Char) : Bool :=
  match kind with
  | .other => c == '/'
  | _ => isSlash c

def endsPath (c : Char) : Bool := c == '?' || c == '#'

def isBlank (c : Char) : Bool := c.toNat ≤ 0x20

def isLineChar (c : Char) : Bool := c == '\t' || c == '\n' || c == '\r'

-- Blanks around an address do not count, and tabs and line ends count nowhere.
def clean (text : String) : List Char :=
  ((((text.toList.dropWhile isBlank).reverse).dropWhile isBlank).reverse).filter (!isLineChar ·)

def splitScheme? (text : List Char) : Option (String × List Char) :=
  let scheme := text.takeWhile isSchemeChar
  match scheme, text.drop scheme.length with
  | first :: _, ':' :: rest =>
    if first.isAlpha then some (String.ofList (scheme.map Char.toLower), rest) else none
  | _, _ => none

-- A colon within brackets belongs to the host.
def splitHost (bracketed : Bool) : List Char → List Char × List Char
  | [] => ([], [])
  | c :: rest =>
    if c = ':' ∧ !bracketed then ([], c :: rest)
    else
      let (host, rest) := splitHost (c == '[' || (bracketed && c != ']')) rest
      (c :: host, rest)

def readPort (scheme : String) : List Char → Except UrlProblem (Option Nat × List Char)
  | ':' :: text =>
    let digits := text.takeWhile Char.isDigit
    let rest := text.dropWhile Char.isDigit
    let port := digits.foldl (fun n c => n * 10 + (c.toNat - '0'.toNat)) 0
    if (rest.isEmpty ∨ rest.head? = some '\\') ∧ port < 2 ^ 16 then
      .ok (if digits.isEmpty ∨ ports.lookup scheme = some port then none else some port, rest)
    else .error .badPort
  | rest => .ok (none, rest)

def readHost (kind : Kind) (text : List Char) : Except UrlProblem Host :=
  (if kind = .other then Host.readPlain text else Host.read text).mapError .host

def readPlace (kind : Kind) (scheme : String) (text : List Char) :
    Except UrlProblem (Place × List Char) := do
  let inside := text.takeWhile fun c => !(isParting kind c || endsPath c)
  let after := text.drop inside.length
  let named := (inside.reverse.takeWhile (· != '@')).reverse
  let user := inside.take (inside.length - named.length)
  let (host, rest) := splitHost false named
  if host.isEmpty then
    let unfinished := !rest.isEmpty ||
      if user == ['@'] then !after.isEmpty else !(user.isEmpty || user == [':', '@'])
    if kind = .other ∧ !unfinished then return (.unnamed, after)
    else throw (.host .missing)
  else
    let host ← readHost kind host
    let (port, rest) ← readPort scheme rest
    return (.located host port, rest ++ after)

-- A letter and a colon name a drive and no host.
def isDrive : List Char → Bool
  | [c, d] => c.isAlpha && (d == ':' || d == '|')
  | _ => false

def readFilePlace (text : List Char) : Except UrlProblem (Place × List Char) := do
  let named := text.takeWhile fun c => !(isSlash c || endsPath c)
  if named.isEmpty ∨ isDrive named then return (.unnamed, text)
  else
    let host ← readHost .file named
    let rest := text.drop named.length
    return (if host = .named "localhost" then .unnamed else .located host none, rest)

def readPlaceOf (kind : Kind) (scheme : String) (text : List Char) :
    Except UrlProblem (Place × List Char) :=
  match kind, text with
  | .web, _ => readPlace .web scheme (text.dropWhile isSlash)
  | .file, a :: b :: rest =>
    if isSlash a && isSlash b then readFilePlace rest else .ok (.unnamed, text)
  | .file, _ => .ok (.unnamed, text)
  | .other, '/' :: '/' :: rest => readPlace .other scheme rest
  | .other, _ => .ok (.absent, text)

def pathMarks : List Char := [' ', '"', '<', '>', '\x60', '#', '?', '\x7b', '\x7d']

def fragmentMarks : List Char := [' ', '"', '<', '>', '\x60']

def queryMarks (kind : Kind) : List Char :=
  [' ', '"', '#', '<', '>'] ++ if kind = .other then [] else ['\'']

def encoded (marks text : List Char) : String := String.ofList (text.flatMap (encodeExcept marks))

def points : List Char → List Char
  | '%' :: '2' :: 'e' :: rest => '.' :: points rest
  | '%' :: '2' :: 'E' :: rest => '.' :: points rest
  | c :: rest => c :: points rest
  | [] => []

/-- One point names the place where one is and two the one above; `walked` is the path so far,
from its end. -/
def resolve (walked : List String) : List (List Char) → List String
  | [] => walked.reverse
  | [last] =>
    if points last = ['.', '.'] then ("" :: walked.drop 1).reverse
    else if points last = ['.'] then ("" :: walked).reverse
    else (encoded pathMarks last :: walked).reverse
  | name :: rest =>
    if points name = ['.', '.'] then resolve (walked.drop 1) rest
    else if points name = ['.'] then resolve walked rest
    else resolve (encoded pathMarks name :: walked) rest

def readSegments (kind : Kind) (text : List Char) : UrlPath :=
  .segments (resolve [] (Host.pieces '/' (text.map fun c => if isParting kind c then '/' else c)))

def readPath (kind : Kind) (place : Place) (text : List Char) : UrlPath :=
  let withoutSlash := match text with
    | c :: rest => if isParting kind c then rest else text
    | [] => []
  match kind, place with
  | .web, _ => readSegments kind withoutSlash
  | .file, _ => readSegments kind (text.dropWhile isSlash)
  | .other, .absent =>
    if text.head? = some '/' then readSegments kind withoutSlash
    else .rootless (encoded [] text)
  | .other, _ => if text.isEmpty then .segments [] else readSegments kind withoutSlash

def behind (mark : Char) (marks text : List Char) : Option String :=
  match text with
  | c :: rest => if c = mark then some (encoded marks rest) else none
  | [] => none

def parse (text : String) : Except UrlProblem Url := do
  match splitScheme? (clean text) with
  | none => throw .noScheme
  | some (scheme, rest) =>
    let kind := Kind.ofScheme scheme
    let (place, rest) ← readPlaceOf kind scheme rest
    let path := rest.takeWhile (!endsPath ·)
    let query := (rest.drop path.length).takeWhile (· != '#')
    let fragment := rest.drop (path.length + query.length)
    return {
      scheme
      place
      path := readPath kind place path
      query := behind '?' (queryMarks kind) query
      fragment := behind '#' fragmentMarks fragment }

def Place.toText : Place → String
  | .absent => ""
  | .unnamed => "//"
  | .located host none => "//" ++ host.toText
  | .located host (some port) => "//" ++ host.toText ++ ":" ++ toString port

-- Without a place two slashes would name one, so a point comes between them.
def pathText (place : Place) : UrlPath → String
  | .segments names =>
    let path := String.join (names.map ("/" ++ ·))
    if place = .absent ∧ "//".isPrefixOf path then "/." ++ path else path
  | .rootless text => text

def toText (u : Url) : String :=
  u.scheme ++ ":" ++ Place.toText u.place ++ pathText u.place u.path ++
    (u.query.map ("?" ++ ·)).getD "" ++ (u.fragment.map ("#" ++ ·)).getD ""

def isWeb (u : Url) : Bool := u.scheme == "http" || u.scheme == "https"

end Url

def refusal? (url : String) : Option String :=
  match Url.parse url with
  | .error problem => some ("builder error: " ++ problem.message)
  | .ok u =>
    if u.isWeb then none
    else some ("builder error for url (" ++ u.toText ++ "): URL scheme is not allowed")

end MultiWallet.Http
