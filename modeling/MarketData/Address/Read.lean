import MarketData.Address.Host
import MarketData.Address.Path

/-! Reading addresses, alone or relative to another one. -/

namespace MarketData.Address

/-- Without tabs and line breaks anywhere, and without controls and blanks at the ends. -/
def clean (text : String) : List Char :=
  let isEdge (c : Char) : Bool := c.toNat ≤ 0x20
  let trimmed := ((text.toList.dropWhile isEdge).reverse.dropWhile isEdge).reverse
  trimmed.filter fun c => c != '\t' && c != '\n' && c != '\r'

def isSchemeChar (c : Char) : Bool := c.isAlphanum || c == '+' || c == '-' || c == '.'

/-- A scheme in lower case, and what follows its colon. -/
def scheme? (cs : List Char) : Option (String × List Char) :=
  match cs.takeWhile isSchemeChar, cs.dropWhile isSchemeChar with
  | first :: more, ':' :: rest =>
    if first.isAlpha then some (String.ofList ((first :: more).map Char.toLower), rest) else none
  | _, _ => none

def endsPath (c : Char) : Bool := c == '?' || c == '#'

def endsAuthority (special : Bool) (c : Char) : Bool := isSlash special c || endsPath c

/-- Query and fragment, from the character that ended the path. -/
def queryAndFragment (special : Bool) (cs : List Char) : Option String × Option String :=
  let (beforeHash, hash) := Cut.before (· == '#') cs
  let query :=
    match beforeHash with
    | '?' :: rest => some (code (reservedInQuery special) rest)
    | _ => none
  let fragment :=
    match hash with
    | '#' :: rest => some (code reservedInFragment rest)
    | _ => none
  (query, fragment)

/-- User and password, before the last at sign of an authority, and what follows it. -/
def cutCredentials (authority : List Char) : Option (List Char) × List Char :=
  let host := (authority.reverse.takeWhile (· != '@')).reverse
  if host.length = authority.length then (none, authority)
  else (some (authority.take (authority.length - host.length - 1)), host)

/-- An empty password is none. -/
def readCredentials (cs : List Char) : Credentials :=
  let (user, rest) := Cut.before (· == ':') cs
  let password := rest.drop 1
  { user := code reservedInCredentials user
    password := if password.isEmpty then none else some (code reservedInCredentials password) }

/-- The host and the text of the port; a colon inside brackets does not end the host. -/
def splitPort (bracketed : Bool) : List Char → List Char × List Char
  | [] => ([], [])
  | c :: rest =>
    if c == ':' && !bracketed then ([], c :: rest)
    else
      let (host, port) := splitPort (c == '[' || bracketed && c != ']') rest
      (c :: host, port)

/-- The port after its colon; a backslash begins the path. -/
def readPort (scheme : String) (cs : List Char) :
    Except AddressFault (Option Nat × List Char) :=
  let (digits, rest) := Cut.before (!Char.isDigit ·) (cs.drop 1)
  let n := Decimal.value digits
  if 65535 < n || rest.head?.any (· != '\\') then .error .invalidPort
  else if digits.isEmpty || hostedSchemes.lookup scheme == some n then .ok (none, rest)
  else .ok (some n, rest)

/-- The path after an authority. -/
def absolutePath (special : Bool) (cs : List Char) : List String :=
  match cs with
  | [] => if special then [""] else []
  | c :: rest => addSegments false [] (segments special (if isSlash special c then rest else cs))

/-- What follows the slashes before an authority. -/
def withAuthority (scheme : String) (cs : List Char) : Except AddressFault Address := do
  let special := isSpecial scheme
  let (authority, rest) := Cut.before (endsAuthority special) cs
  let (user, located) := cutCredentials authority
  let credentials := user.elim {} readCredentials
  let (hostText, portText) := splitPort false located
  if located.isEmpty && user == some [] && !rest.isEmpty then .error .emptyHost
  else if hostText.isEmpty && special then .error .emptyHost
  else
    let host ← if special then hostOfName hostText else hostOfText hostText
    if host.isEmpty && !portText.isEmpty then .error .emptyHost
    else
      let (port, more) ← readPort scheme portText
      if host.isEmpty && !credentials.isEmpty then .error .emptyHost
      else
        let (written, tail) := Cut.before endsPath (more ++ rest)
        let (query, fragment) := queryAndFragment special tail
        return { scheme, credentials, host, port, query, fragment
                 path := .rooted (absolutePath special written) }

/-- An address with nothing but a path, a query and a fragment after the scheme. -/
def withoutAuthority (scheme : String) (cs : List Char) : Address :=
  let (written, tail) := Cut.before endsPath cs
  let (query, fragment) := queryAndFragment false tail
  let path :=
    match written with
    | '/' :: rest => .rooted (addSegments false [] (segments false rest))
    | _ => .unstructured (code (fun _ => false) written)
  { scheme, host := none, port := none, path, query, fragment }

/-- A file on a host. Its path begins with one slash, and with a drive letter it is on this host. -/
def withFilePath (host : String) (cs : List Char) : Address :=
  let (written, tail) := Cut.before endsPath cs
  let (query, fragment) := queryAndFragment true tail
  let path := addSegments true [] (segments true written)
  let onDrive := path.head?.any fun segment => isDriveLetter segment.toList
  let shown := path.dropWhile String.isEmpty
  { scheme := "file", host := some (if onDrive then "" else host), port := none, query, fragment
    path := .rooted (if shown.isEmpty then [""] else shown) }

/-- What follows the colon of the scheme for files. This host is not named. -/
def fileAddress (cs : List Char) : Except AddressFault Address :=
  let slashes := cs.takeWhile (isSlash true)
  match slashes with
  | _ :: _ :: _ => do
    let (hostText, rest) := Cut.before (endsAuthority true) (cs.drop 2)
    if isDriveLetter hostText || hostText.isEmpty then return withFilePath "" (cs.drop 2)
    else
      let host ← hostOfName hostText
      if host == "localhost" then return withFilePath "" rest
      else return withFilePath host (if rest.head?.any (isSlash true) then rest.drop 1 else rest)
  | _ => .ok (withFilePath "" (cs.drop slashes.length))

/-- An address that stands alone. -/
def read (text : String) : Except AddressFault Address :=
  match scheme? (clean text) with
  | none => .error .relative
  | some (scheme, rest) =>
    if isHosted scheme then withAuthority scheme (rest.dropWhile (isSlash true))
    else if isFile scheme then fileAddress rest
    else
      match rest with
      | '/' :: '/' :: more => withAuthority scheme more
      | _ => .ok (withoutAuthority scheme rest)

/-- The segments of a path without the last, which a relative path replaces. -/
def parentSegments (a : Address) : List String :=
  match a.path with
  | .rooted segments => segments.dropLast
  | .unstructured _ => []

/-- An address that may be relative to `base`, which has a host. A scheme that is that of the base
may be followed by a relative address, too. -/
def resolve (base : Address) (text : String) : Except AddressFault Address :=
  let special := isSpecial base.scheme
  let slashes (cs : List Char) : Nat := (cs.takeWhile (isSlash special)).length
  let cs := clean text
  match scheme? cs with
  | some (scheme, rest) =>
    if scheme == base.scheme && slashes rest < 2 then .ok (relative rest) else read text
  | none =>
    if slashes cs < 2 then .ok (relative cs)
    else withAuthority base.scheme (cs.dropWhile (isSlash special))
where
  relative (cs : List Char) : Address :=
    let special := isSpecial base.scheme
    let (written, tail) := Cut.before endsPath cs
    let (query, fragment) := queryAndFragment special tail
    match written with
    | [] =>
      match tail with
      | '?' :: _ => { base with query, fragment }
      | _ => { base with fragment }
    | c :: rest =>
      let path :=
        if isSlash special c then addSegments false [] (segments special rest)
        else addSegments false base.parentSegments (segments special written)
      { base with path := .rooted path, query, fragment }

end MarketData.Address
