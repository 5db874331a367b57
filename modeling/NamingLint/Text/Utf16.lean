
namespace NamingLint.Text

def isHighSurrogate (u : Nat) : Bool := 0xD800 ≤ u && u < 0xDC00

def isLowSurrogate (u : Nat) : Bool := 0xDC00 ≤ u && u < 0xE000

def ofSurrogates (hi lo : Nat) : Char := Char.ofNat (0x10000 + (hi - 0xD800) * 0x400 + (lo - 0xDC00))

/-- Decodes code units; unpaired surrogates become U+FFFD. -/
def decodeUnits : List Nat → List Char
  | [] => []
  | [u] => if isHighSurrogate u || isLowSurrogate u then ['\uFFFD'] else [Char.ofNat u]
  | u :: rest@(v :: more) =>
    if isHighSurrogate u then
      if isLowSurrogate v then ofSurrogates u v :: decodeUnits more
      else '\uFFFD' :: decodeUnits rest
    else if isLowSurrogate u then '\uFFFD' :: decodeUnits rest
    else Char.ofNat u :: decodeUnits rest

end NamingLint.Text
