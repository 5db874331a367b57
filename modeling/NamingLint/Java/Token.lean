import NamingLint.Java.Escape
import NamingLint.Java.Keyword

namespace NamingLint.Java

inductive TokenKind
  | identifier
  | keyword
  | literal
  | operator
  deriving DecidableEq, Repr, Inhabited

/-- A token with its text and byte range `[start, stop)`. -/
structure Token where
  kind : TokenKind
  text : String
  start : Nat
  stop : Nat
  deriving DecidableEq, Repr, Inhabited

def wordKind (word : String) : TokenKind :=
  if literalWords.contains word then .literal
  else if keywords.contains word then .keyword
  else .identifier

namespace Token

/-- The text with Unicode escapes decoded. -/
def word (t : Token) : String := decodeEscapes t.text

def isIdentifier (t : Token) : Bool := t.kind == .identifier

/-- Whether the token is the identifier `w`, as for contextual keywords such as `record`. -/
def isWord (t : Token) (w : String) : Bool := t.kind == .identifier && t.word == w

def isKeyword (t : Token) (w : String) : Bool := t.kind == .keyword && t.word == w

def isOperator (t : Token) (op : String) : Bool := t.kind == .operator && t.text == op

def isPrimitiveType (t : Token) : Bool := t.kind == .keyword && primitiveTypes.contains t.word

end Token

end NamingLint.Java
