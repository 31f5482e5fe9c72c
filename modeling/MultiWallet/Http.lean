import MultiWallet.Json.Decode

set_option autoImplicit false

namespace MultiWallet.Http

inductive Method where
  | get
  | post
deriving DecidableEq, Repr

structure Request where
  method : Method
  url : String
  authorization : Option String
  body : String
deriving DecidableEq, Repr

structure Reply where
  status : Nat
  body : String
deriving DecidableEq, Repr

inductive Outcome where
  | reply (r : Reply)
  | unreachable
deriving DecidableEq, Repr

def Reply.isSuccess (r : Reply) : Bool := 200 ≤ r.status && r.status < 300

def Reply.isError (r : Reply) : Bool := 400 ≤ r.status && r.status < 600

def reasons : List (Nat × String) :=
  [(100, "Continue"), (101, "Switching Protocols"), (102, "Processing"), (200, "OK"),
   (201, "Created"), (202, "Accepted"), (203, "Non Authoritative Information"),
   (204, "No Content"), (205, "Reset Content"), (206, "Partial Content"), (207, "Multi-Status"),
   (208, "Already Reported"), (226, "IM Used"), (300, "Multiple Choices"),
   (301, "Moved Permanently"), (302, "Found"), (303, "See Other"), (304, "Not Modified"),
   (305, "Use Proxy"), (307, "Temporary Redirect"), (308, "Permanent Redirect"),
   (400, "Bad Request"), (401, "Unauthorized"), (402, "Payment Required"), (403, "Forbidden"),
   (404, "Not Found"), (405, "Method Not Allowed"), (406, "Not Acceptable"),
   (407, "Proxy Authentication Required"), (408, "Request Timeout"), (409, "Conflict"),
   (410, "Gone"), (411, "Length Required"), (412, "Precondition Failed"),
   (413, "Payload Too Large"), (414, "URI Too Long"), (415, "Unsupported Media Type"),
   (416, "Range Not Satisfiable"), (417, "Expectation Failed"), (418, "I'm a teapot"),
   (421, "Misdirected Request"), (422, "Unprocessable Entity"), (423, "Locked"),
   (424, "Failed Dependency"), (426, "Upgrade Required"), (428, "Precondition Required"),
   (429, "Too Many Requests"), (431, "Request Header Fields Too Large"),
   (451, "Unavailable For Legal Reasons"), (500, "Internal Server Error"),
   (501, "Not Implemented"), (502, "Bad Gateway"), (503, "Service Unavailable"),
   (504, "Gateway Timeout"), (505, "HTTP Version Not Supported"),
   (506, "Variant Also Negotiates"), (507, "Insufficient Storage"), (508, "Loop Detected"),
   (510, "Not Extended"), (511, "Network Authentication Required")]

def statusText (status : Nat) : String :=
  toString status ++ " " ++ ((reasons.lookup status).getD "<unknown status code>")

def trimSlashes (url : String) : String :=
  String.ofList (url.toList.reverse.dropWhile (· == '/')).reverse

def keptInForm (c : Char) : Bool := c.isAlphanum || c == '*' || c == '-' || c == '.' || c == '_'

def percent (byte : UInt8) : List Char :=
  let digit (n : Nat) : Char := (Text.hexDigitOf n).toUpper
  ['%', digit (byte.toNat / 16), digit (byte.toNat % 16)]

def encodeFormChar (c : Char) : List Char :=
  if keptInForm c then [c]
  else if c = ' ' then ['+']
  else c.toString.toUTF8.toList.flatMap percent

def encodeForm (text : String) : String := String.ofList (text.toList.flatMap encodeFormChar)

def query (fields : List (String × String)) : String :=
  "&".intercalate (fields.map fun (name, value) => encodeForm name ++ "=" ++ encodeForm value)

def bearer (token : String) : Option String := some ("Bearer " ++ token)

def get (url : String) (authorization : Option String) : Request :=
  { method := .get, url, authorization, body := "" }

def postJson (url : String) (authorization : Option String) (body : Json) : Request :=
  { method := .post, url, authorization, body := body.render }

def postForm (url : String) (fields : List (String × String)) : Request :=
  { method := .post, url, authorization := none, body := query fields }

end MultiWallet.Http
