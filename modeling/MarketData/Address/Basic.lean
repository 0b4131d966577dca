import MarketData.Text.Percent

/-! Absolute addresses: a URL taken apart into scheme, user, host, port, path, query and fragment,
each part in its normal form. -/

namespace MarketData

/-- Why a text is no absolute address. -/
inductive AddressFault
  | relative
  | emptyHost
  | invalidName
  | invalidHostCharacter
  | invalidIpv4
  | invalidIpv6
  | invalidPort
deriving DecidableEq, Repr

def AddressFault.message : AddressFault → String
  | .relative => "relative URL without a base"
  | .emptyHost => "empty host"
  | .invalidName => "invalid international domain name"
  | .invalidHostCharacter => "invalid domain character"
  | .invalidIpv4 => "invalid IPv4 address"
  | .invalidIpv6 => "invalid IPv6 address"
  | .invalidPort => "invalid port number"

/-- A path that starts at a root, or a text that no path can be resolved against. -/
inductive AddressPath
  | rooted (segments : List String)
  | unstructured (text : String)
deriving DecidableEq, Repr

def AddressPath.text : AddressPath → String
  | .rooted segments => String.join (segments.map ("/" ++ ·))
  | .unstructured text => text

/-- Who asks, percent-coded. -/
structure Credentials where
  user : String := ""
  password : Option String := none
deriving DecidableEq, Repr

namespace Credentials

def isEmpty (c : Credentials) : Bool := c.user.isEmpty && c.password.isNone

def text (c : Credentials) : String :=
  if c.isEmpty then "" else c.user ++ (c.password.elim "" (":" ++ ·)) ++ "@"

/-- The user is text, and there is a user or a password that is text. -/
def areReadable (c : Credentials) : Bool :=
  (Percent.decode c.user).isSome &&
    (!c.user.isEmpty || (c.password.bind Percent.decode).isSome)

end Credentials

structure Address where
  scheme : String
  credentials : Credentials := {}
  /-- Absent where no authority is given; it may be given and be empty. -/
  host : Option String
  /-- Absent where it is the usual one of the scheme. -/
  port : Option Nat
  path : AddressPath
  query : Option String
  fragment : Option String
deriving DecidableEq, Repr

namespace Address

/-- The schemes whose addresses always have a host, with the ports they use unless told. -/
def hostedSchemes : List (String × Nat) :=
  [("http", 80), ("https", 443), ("ws", 80), ("wss", 443), ("ftp", 21)]

def isHosted (scheme : String) : Bool := hostedSchemes.any (·.1 == scheme)

def isFile (scheme : String) : Bool := scheme == "file"

/-- The schemes in which a backslash separates as a slash does. -/
def isSpecial (scheme : String) : Bool := isHosted scheme || isFile scheme

/-- The path, marked where it would be taken for an authority. -/
def pathText (a : Address) : String :=
  match a.host, a.path with
  | none, .rooted ("" :: _ :: _) => "/." ++ a.path.text
  | _, _ => a.path.text

/-- Everything but the fragment. -/
def target (a : Address) : String :=
  let authority := a.host.elim "" fun host =>
    "//" ++ a.credentials.text ++ host ++ (a.port.elim "" fun port => ":" ++ toString port)
  a.scheme ++ ":" ++ authority ++ a.pathText ++ (a.query.elim "" ("?" ++ ·))

def text (a : Address) : String := a.target ++ (a.fragment.elim "" ("#" ++ ·))

/-- Without user and password, as far as they can be sent apart from the address. -/
def withoutReadableCredentials (a : Address) : Address :=
  if a.credentials.areReadable then { a with credentials := {} } else a

/-- Percent-codes the characters that `reserved` names, controls and everything outside ASCII. -/
def code (reserved : Char → Bool) (cs : List Char) : String :=
  String.ofList <| cs.flatMap fun c =>
    if 0x7F ≤ c.toNat || c.toNat < 0x20 || reserved c then
      (String.utf8EncodeChar c).flatMap Percent.encodeByte
    else [c]

def reservedInFragment (c : Char) : Bool := [' ', '"', '<', '>', '\x60'].contains c

def reservedInPath (c : Char) : Bool :=
  reservedInFragment c || ['#', '?', '{', '}'].contains c

def reservedInCredentials (c : Char) : Bool :=
  reservedInPath c || ['/', ':', ';', '=', '@', '[', '\\', ']', '^', '|'].contains c

def reservedInQuery (special : Bool) (c : Char) : Bool :=
  [' ', '"', '#', '<', '>'].contains c || special && c == '\''

end Address

end MarketData
