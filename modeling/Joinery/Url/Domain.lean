import Joinery.Url.Domain.Composition
import Joinery.Url.Domain.Direction
import Joinery.Url.Domain.Joining
import Joinery.Url.Domain.Mapping
import Joinery.Url.Punycode

/-!
# Domain names

A domain name is brought to one ASCII form: each character is replaced by what
stands for it in names, letters and marks are composed, and labels beyond ASCII
are written in Punycode after `xn--`. A label that is in Punycode already is
checked as the label that it stands for. Labels may be empty and of any length
that Punycode is read and written for.
-/

namespace Joinery.Url

namespace Domain

/-- ASCII characters that no domain name has, control characters apart. -/
def forbidden : List Char :=
  [' ', '#', '%', '/', ':', '<', '>', '?', '@', '[', '\\', ']', '^', '|', '\x7F']

/-- Whether an ASCII character may not stand in a domain name. -/
def isForbidden (c : Char) : Bool := c.toNat < 0x20 || forbidden.contains c

/-- Whether a character lies beyond ASCII. -/
def isBeyond (c : Char) : Bool := 0x80 ≤ c.toNat

/-- The normal form of a name or a label; nothing if a character has no place in
names. -/
def normalForm? (cs : List Char) : Option (List Char) :=
  (cs.mapM image?).map fun images => compose images.flatten

/-- What a label in Punycode starts with. -/
def punycodeMark : List Char := ['x', 'n', '-', '-']

/-- The most characters that are read as Punycode. -/
def greatestCoded : Nat := 2000

/-- The most characters that are written in Punycode. -/
def greatestCodable : Nat := 1000

/-- Whether the characters of a label may stand where they do. -/
def isWellFormed (label : List Char) : Bool :=
  !label.any isForbidden && !label.head?.any isMark && joinersFit [] label

/-- The label that Punycode stands for. It lies beyond ASCII, is one label, and is
in normal form. -/
def decodeLabel? (coded : List Char) : Option (List Char) :=
  if greatestCoded < coded.length then none
  else
    (Punycode.decode? coded).filter fun label =>
      label.any isBeyond && !label.contains '.' && isWellFormed label &&
        normalForm? label = some label

/-- The readable form of a label in normal form, if it may stand in a name. -/
def readableLabel? (label : List Char) : Option (List Char) :=
  if punycodeMark.isPrefixOf label then decodeLabel? (label.drop punycodeMark.length)
  else if isWellFormed label then some label
  else none

/-- The ASCII form of a label in normal form. -/
def asciiLabel? (label : List Char) : Option (List Char) :=
  if !label.any isBeyond then some label
  else if greatestCodable < label.length then none
  else some (punycodeMark ++ Punycode.encode label)

/-- Whether the labels of a name may be read together: where one has letters
written from right to left, all must read in one direction. -/
def isReadable (labels : List (List Char)) : Bool :=
  !labels.any (·.any isRightToLeft) || labels.all readsOneWay

end Domain

/-- Splits a text at each point. -/
def labels (cs : List Char) : List (List Char) := cs.splitOn '.'

/-- The ASCII form of a domain name. -/
def asciiDomain? (cs : List Char) : Option (List Char) :=
  match (Domain.normalForm? cs).map labels with
  | none => none
  | some parts =>
    match parts.mapM Domain.readableLabel? with
    | none => none
    | some readable =>
      if Domain.isReadable readable then
        (parts.mapM Domain.asciiLabel?).map fun parts => ['.'].intercalate parts
      else none

end Joinery.Url
