import Joinery.Url.Address

/-!
# Reading URLs

Addresses of the schemes `http` and `https` are read into their normal form. Of
any other scheme it is only said whether the text is a URL at all. Tabs, line
ends, and blanks around the text do not count; in web addresses a backslash is a
slash, and any number of slashes may follow the scheme.
-/

namespace Joinery.Url

/-- What a text refers to. -/
inductive Reference where
  | web (url : Url)
  /-- A URL of another scheme. -/
  | other
deriving DecidableEq

/-- Removes blanks and control characters around a text, and tabs and line ends
inside. -/
def clean (cs : List Char) : List Char :=
  let outer (c : Char) : Bool := c.toNat ≤ 0x20
  (((cs.dropWhile outer).reverse.dropWhile outer).reverse).filter fun c => !isDropped c

/-- Whether a character may stand in a scheme after its first letter. -/
def isSchemeChar (c : Char) : Bool := c.isAlphanum || c = '+' || c = '-' || c = '.'

/-- The scheme, in small letters, and the text after its colon. -/
def readScheme (cs : List Char) : Option (List Char × List Char) :=
  match cs.takeWhile isSchemeChar, cs.dropWhile isSchemeChar with
  | c :: name, ':' :: rest =>
    if c.isAlpha then some ((c :: name).map Char.toLower, rest) else none
  | _, _ => none

/-- What a scheme means for the rest of a URL. -/
inductive SchemeKind where
  | web (secure : Bool)
  /-- Read like a web address, with a usual port of its own. -/
  | webLike (port : Nat)
  | file
  | opaqueKind
deriving DecidableEq

/-- The kind of a scheme. -/
def schemeKind (scheme : List Char) : SchemeKind :=
  let name := String.ofList scheme
  if name = "http" then .web false
  else if name = "https" then .web true
  else if name = "ws" then .webLike 80
  else if name = "wss" then .webLike 443
  else if name = "ftp" then .webLike 21
  else if name = "file" then .file
  else .opaqueKind

/-- Whether a character ends the part of a URL that names the host. -/
def endsAuthority (special : Bool) (c : Char) : Bool :=
  c = '/' || c = '?' || c = '#' || (special && c = '\\')

/-- Splits at the last at sign. -/
def splitCredentials (authority : List Char) : Option (List Char × List Char) :=
  if authority.contains '@' then
    let host := (authority.reverse.takeWhile (· ≠ '@')).reverse
    some (authority.take (authority.length - host.length - 1), host)
  else none

/-- The user name and the password, percent encoded. -/
def readCredentials (cs : List Char) : List Char × List Char :=
  let encode := percentEncode userReserved
  (encode (cs.takeWhile (· ≠ ':')), encode (cs.dropWhile (· ≠ ':')).tail)

/-- Splits host and port at the first colon outside brackets. -/
def splitPort (bracketed : Bool) : List Char → List Char × Option (List Char)
  | [] => ([], none)
  | c :: rest =>
    if c = ':' && !bracketed then ([], some rest)
    else
      let inside := if c = '[' then true else if c = ']' then false else bracketed
      let (host, port) := splitPort inside rest
      (c :: host, port)

/-- Reads a port: nothing, or a number of 16 bits. -/
def readPort (cs : List Char) : Except UrlFault (Option Nat) :=
  if cs = [] then .ok none
  else if cs.all Char.isDigit ∧ Nat.ofDigitChars 10 cs 0 < UInt16.size then
    .ok (some (Nat.ofDigitChars 10 cs 0))
  else .error .invalidPort

/-- The parts of a URL that name the host. -/
structure Authority where
  username : List Char
  password : List Char
  host : List Char
  port : Option (List Char)

/-- Takes an authority apart. Credentials need a host behind them. -/
def readAuthority (cs : List Char) : Except UrlFault Authority :=
  match splitCredentials cs with
  | none =>
    let (host, port) := splitPort false cs
    .ok ⟨[], [], host, port⟩
  | some (credentials, rest) =>
    let (username, password) := readCredentials credentials
    let (host, port) := splitPort false rest
    .ok ⟨username, password, host, port⟩

/-- Reads host and port of a web address; the usual port is left out. -/
def readHostPort (authority : Authority) (usualPort : Nat) :
    Except UrlFault (Host × Option Nat) :=
  if authority.host = [] then .error .emptyHost
  else
    match readHost authority.host with
    | .error fault => .error fault
    | .ok host =>
      match readPort (authority.port.getD []) with
      | .error fault => .error fault
      | .ok port => .ok (host, if port = some usualPort then none else port)

/-- Splits a path at slashes of either kind. -/
def splitPath (cs : List Char) : List (List Char) :=
  (cs.map fun c => if c = '\\' then '/' else c).splitOn '/'

/-- Follows a path as it is written from a place in another. -/
def followPath (walked : List (List Char)) (cs : List Char) : List (List Char) :=
  follow walked ((splitPath cs).map (percentEncode pathReserved))

/-- Reads a path; it starts at the root, with or without a slash in front. -/
def readPath (cs : List Char) : List (List Char) :=
  followPath [] (if cs.head? = some '/' ∨ cs.head? = some '\\' then cs.tail else cs)

/-- The text before and, if it occurs, after a character. -/
def splitAtFirst (mark : Char) (cs : List Char) : List Char × Option (List Char) :=
  match cs.dropWhile (· ≠ mark) with
  | [] => (cs, none)
  | _ :: rest => (cs.takeWhile (· ≠ mark), some rest)

/-- Takes apart what follows the host of a web address: the path as it is written, and
query and fragment, percent encoded. -/
def splitTail (cs : List Char) : List Char × Option (List Char) × Option (List Char) :=
  let (front, fragment) := splitAtFirst '#' cs
  let (path, query) := splitAtFirst '?' front
  (path, query.map (percentEncode queryReserved), fragment.map (percentEncode fragmentReserved))

/-- Reads what follows the host of a web address: path, query and fragment. -/
def readTail (cs : List Char) : List (List Char) × Option (List Char) × Option (List Char) :=
  let (path, query, fragment) := splitTail cs
  (readPath path, query, fragment)

/-- Reads a web address after its colon. -/
def readWeb (secure : Bool) (usualPort : Nat) (cs : List Char) : Except UrlFault Url :=
  let rest := cs.dropWhile fun c => c = '/' || c = '\\'
  match readAuthority (rest.takeWhile fun c => !endsAuthority true c) with
  | .error fault => .error fault
  | .ok authority =>
    match readHostPort authority usualPort with
    | .error fault => .error fault
    | .ok (host, port) =>
      let (path, query, fragment) := readTail (rest.dropWhile fun c => !endsAuthority true c)
      .ok ⟨secure, authority.username, authority.password, host, port, path, query, fragment⟩

/-- Checks a file address after its colon: only its host can be wrong. -/
def checkFile : List Char → Except UrlFault Unit
  | a :: b :: rest =>
    let isSlash (c : Char) : Bool := c = '/' || c = '\\'
    let host := rest.takeWhile fun c => !endsAuthority true c
    if !(isSlash a && isSlash b) || host = [] || isDrive host then .ok ()
    else (readHost host).map fun _ => ()
  | _ => .ok ()

/-- Checks the parts of an address of an unknown scheme that name the host. There
need not be one, unless credentials or a port are given. A port ends at a
backslash. -/
def checkAuthority (authority : Authority) : Except UrlFault Unit :=
  if authority.host = [] then
    if authority.port.isSome || authority.username ≠ [] || authority.password ≠ [] then
      .error .emptyHost
    else .ok ()
  else
    match checkOpaqueHost authority.host with
    | .error fault => .error fault
    | .ok () => (readPort ((authority.port.getD []).takeWhile (· ≠ '\\'))).map fun _ => ()

/-- Checks an address of an unknown scheme after its colon. An at sign on its own
needs a host behind it, unless the address ends there. -/
def checkOpaque : List Char → Except UrlFault Unit
  | '/' :: '/' :: rest =>
    let text := rest.takeWhile fun c => !endsAuthority false c
    if text = ['@'] ∧ 1 < rest.length then .error .emptyHost
    else
      match readAuthority text with
      | .error fault => .error fault
      | .ok authority => checkAuthority authority
  | _ => .ok ()

/-- Reads a text as a URL. -/
def read (cs : List Char) : Except UrlFault Reference :=
  match readScheme (clean cs) with
  | none => .error .relativeWithoutBase
  | some (scheme, rest) =>
    match schemeKind scheme with
    | .web secure => (readWeb secure (if secure then 443 else 80) rest).map .web
    | .webLike port => (readWeb false port rest).map fun _ => .other
    | .file => (checkFile rest).map fun _ => .other
    | .opaqueKind => (checkOpaque rest).map fun _ => .other

/-- Reads a text as a URL. -/
def parse (text : String) : Except UrlFault Reference := read text.toList

end Joinery.Url
