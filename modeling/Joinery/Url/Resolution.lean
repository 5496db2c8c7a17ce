import Joinery.Url.Parser

/-!
# URLs that come of others

The path of a URL can be set to a text, and a relative path leads from a URL to another.
-/

namespace Joinery.Url

/-- The URL with the path that a text describes. Nothing ends the path but the text: question
marks and number signs are a part of it. -/
def setPath (url : Url) (text : List Char) : Url :=
  { url with path := readPath (text.filter fun c => !isDropped c) }

/-- The URL with a slash at the end of its path. -/
def asDirectory (url : Url) : Url :=
  if (pathChars url.path).getLast? = some '/' then url
  else url.setPath (pathChars url.path ++ ['/'])

/-- The URL to which a relative path leads. It is followed from the place of the last segment;
query and fragment are those that come after it. The text names no scheme and begins with a
character of a segment. -/
def join (url : Url) (relative : List Char) : Url :=
  let (path, query, fragment) := splitTail (clean relative)
  { url with path := followPath url.path.dropLast path, query := query, fragment := fragment }

end Joinery.Url
