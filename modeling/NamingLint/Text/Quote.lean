import NamingLint.Text.GraphemeExtend
import NamingLint.Text.Printable

namespace NamingLint.Text

def hexDigits (c : Char) : String := String.ofList (Nat.toDigits 16 c.toNat)

/-- The text that stands for `c` between quotes. -/
def escapeChar (c : Char) : String :=
  match c with
  | '\x00' => "\\0"
  | '\t' => "\\t"
  | '\r' => "\\r"
  | '\n' => "\\n"
  | '\\' => "\\\\"
  | '\'' => "\\'"
  | c =>
    if isExtendingMark c || isUnprintable c then "\\u\x7b" ++ hexDigits c ++ "\x7d"
    else String.singleton c

def quoteChar (c : Char) : String := "'" ++ escapeChar c ++ "'"

end NamingLint.Text
