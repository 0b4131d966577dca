import MarketData.Address.Basic
import MarketData.Text.Cut

/-! Paths as lists of segments. A dot segment stays where it is and a double dot goes up, though not
above a drive letter. -/

namespace MarketData.Address

def isSlash (special : Bool) (c : Char) : Bool := c == '/' || special && c == '\\'

def isDot (segment : String) : Bool := [".", "%2e", "%2E"].contains segment

def isDoubleDot (segment : String) : Bool :=
  ["..", ".%2e", ".%2E", "%2e.", "%2E.", "%2e%2e", "%2e%2E", "%2E%2e", "%2E%2E"].contains segment

/-- A letter with a colon or a bar after it. -/
def isDriveLetter (cs : List Char) : Bool :=
  match cs with
  | [letter, mark] => letter.isAlpha && (mark == ':' || mark == '|')
  | _ => false

/-- The path above the last segment. -/
def parent (path : List String) : List String :=
  match path.getLast? with
  | some last => if isDriveLetter last.toList then path else path.dropLast
  | none => []

/-- A segment as it stands first in the path of a file, where a drive letter has a colon. -/
def firstFileSegment (segment : String) : String :=
  if isDriveLetter segment.toList then String.ofList (segment.toList.take 1 ++ [':']) else segment

/-- Adds written segments to a path; a dot segment at the end leaves an empty last segment. -/
def addSegments (ofFile : Bool) (path : List String) : List String → List String
  | [] => path
  | segment :: rest =>
    let ending := if rest.isEmpty then [""] else []
    let next :=
      if isDoubleDot segment then parent path ++ ending
      else if isDot segment then path ++ ending
      else path ++ [if ofFile && path.isEmpty then firstFileSegment segment else segment]
    addSegments ofFile next rest

/-- The segments of a path after its first slash. -/
def segments (special : Bool) (cs : List Char) : List String :=
  (Cut.pieces (isSlash special) cs).map (code reservedInPath)

end MarketData.Address
