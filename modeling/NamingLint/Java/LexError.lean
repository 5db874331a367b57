import NamingLint.Text.Quote

namespace NamingLint.Java

/-- Why a text cannot be split into tokens, with the byte offset where it fails. -/
inductive LexError
  | unterminatedComment (offset : Nat)
  | unterminatedString (offset : Nat)
  | unterminatedTextBlock (offset : Nat)
  | unterminatedChar (offset : Nat)
  | unexpectedCharacter (c : Char) (offset : Nat)
  deriving DecidableEq, Repr

namespace LexError

def ofText (cs : List Char) (offset : Nat) : LexError :=
  match cs with
  | '/' :: '*' :: _ => unterminatedComment offset
  | '"' :: '"' :: '"' :: _ => unterminatedTextBlock offset
  | '"' :: _ => unterminatedString offset
  | '\'' :: _ => unterminatedChar offset
  | c :: _ => unexpectedCharacter c offset
  | [] => unexpectedCharacter '\x00' offset

def offset : LexError → Nat
  | unterminatedComment n | unterminatedString n | unterminatedTextBlock n
  | unterminatedChar n | unexpectedCharacter _ n => n

def message : LexError → String
  | unterminatedComment n => "unterminated block comment starting at offset " ++ toString n
  | unterminatedString n => "unterminated string literal starting at offset " ++ toString n
  | unterminatedTextBlock n => "unterminated text block starting at offset " ++ toString n
  | unterminatedChar n => "unterminated character literal starting at offset " ++ toString n
  | unexpectedCharacter c n =>
    "unexpected character " ++ Text.quoteChar c ++ " at offset " ++ toString n

end LexError

end NamingLint.Java
