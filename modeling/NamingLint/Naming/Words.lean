import NamingLint.Text.Lowercase
import NamingLint.Text.Uppercase
import NamingLint.Text.Numeric

namespace NamingLint.Words

open Text

def isSeparator (c : Char) : Bool := c = '_' || c = '$'

/-- Whether a new word starts at `c`, which follows `prev` and comes before `next`. -/
def startsWord (prev c : Char) (next : Option Char) : Bool :=
  isUppercase c &&
    (isLowercase prev || isNumeric prev || (isUppercase prev && next.any isLowercase))

def splitFrom (current : List Char) (prev : Char) : List Char → List (List Char)
  | [] => [current.reverse]
  | c :: rest =>
    if startsWord prev c rest.head? then current.reverse :: splitFrom [c] c rest
    else splitFrom (c :: current) c rest

def ofSegment : List Char → List (List Char)
  | [] => []
  | c :: rest => splitFrom [c] c rest

/-- The words of a name, each non-empty, in order. -/
def ofChars (name : List Char) : List (List Char) :=
  (name.splitOnP isSeparator).flatMap ofSegment

end NamingLint.Words
