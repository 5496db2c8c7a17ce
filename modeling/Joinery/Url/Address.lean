import Joinery.Url.Host

/-!
# Web addresses

The address of a service on the web: scheme, credentials, host, port and path,
with an optional query and fragment. The path is a list of segments that are
percent encoded already; it has at least one, which may be empty.
-/

namespace Joinery

/-- A URL of the schemes `http` and `https`, in normal form. -/
structure Url where
  /-- Whether the scheme is `https`. -/
  secure : Bool
  username : List Char
  password : List Char
  host : Url.Host
  /-- The port, if it is not the usual one of the scheme. -/
  port : Option Nat
  path : List (List Char)
  query : Option (List Char)
  fragment : Option (List Char)
deriving DecidableEq

namespace Url

/-- The name of the scheme. -/
def schemeChars (url : Url) : List Char :=
  if url.secure then "https".toList else "http".toList

/-- User name and password before the host. -/
def credentialChars (url : Url) : List Char :=
  if url.username = [] ∧ url.password = [] then []
  else
    url.username ++ (if url.password = [] then [] else ':' :: url.password) ++ ['@']

/-- The segments of a path, each after a slash. -/
def pathChars (path : List (List Char)) : List Char := path.flatMap fun segment => '/' :: segment

/-- Everything before the path. -/
def originChars (url : Url) : List Char :=
  url.schemeChars ++ ':' :: '/' :: '/' :: (url.credentialChars ++ url.host.chars ++
    (match url.port with
      | none => []
      | some port => ':' :: Nat.toDigits 10 port))

/-- The characters of a URL. -/
def chars (url : Url) : List Char :=
  url.originChars ++ pathChars url.path ++
    (match url.query with
      | none => []
      | some query => '?' :: query) ++
    (match url.fragment with
      | none => []
      | some fragment => '#' :: fragment)

/-- The text of a URL. -/
def text (url : Url) : String := String.ofList url.chars

/-- The text of the path, as a request names it. -/
def pathText (url : Url) : String := String.ofList (pathChars url.path)

/-- Whether a segment means the place where it stands. -/
def isDot (segment : List Char) : Bool :=
  segment = ['.'] || segment.map Char.toLower = ['%', '2', 'e']

/-- Whether a segment means the place above. -/
def isDoubleDot (segment : List Char) : Bool :=
  segment = ['.', '.'] ||
    [['%', '2', 'e', '.'], ['.', '%', '2', 'e'], ['%', '2', 'e', '%', '2', 'e']].contains
      (segment.map Char.toLower)

/-- Whether a segment names a drive, such as `C:`. No step upwards removes it. -/
def isDrive : List Char → Bool
  | [letter, mark] => letter.isAlpha && (mark = ':' || mark = '|')
  | _ => false

/-- The segments after a step upwards. -/
def stepUp (segments : List (List Char)) : List (List Char) :=
  if segments.getLast?.any isDrive then segments else segments.dropLast

/-- Follows segments from a place in a path. Single and double dots move; at the
end they leave an empty segment. -/
def follow (walked : List (List Char)) : List (List Char) → List (List Char)
  | [] => walked
  | [last] =>
    if isDoubleDot last then stepUp walked ++ [[]]
    else if isDot last then walked ++ [[]]
    else walked ++ [last]
  | segment :: rest =>
    if isDoubleDot segment then follow (stepUp walked) rest
    else if isDot segment then follow walked rest
    else follow (walked ++ [segment]) rest

/-- Whether a character is dropped from every part of a URL. -/
def isDropped (c : Char) : Bool := c = '\t' || c = '\n' || c = '\r'

/-- Adds a text as one more segment. Dots alone add nothing; tabs and line ends
are dropped from the text first, and what is left may still be a step. -/
def push (url : Url) (text : List Char) : Url :=
  if text = ['.'] ∨ text = ['.', '.'] then url
  else
    let segment := percentEncode segmentReserved (text.filter fun c => !isDropped c)
    let walked := if url.path = [[]] then [] else url.path
    { url with path := follow walked [segment] }

end Url

end Joinery
