import NamingLint.Text.Automaton

/-!
# Number literals

A number literal has one of seven forms, where `_` may stand among the digits:

* decimal `12_000`, with one of `lLfFdD` after it;
* hexadecimal `0x1F` and binary `0b1010`, with `l` or `L` after them;
* decimal with a point `1.5`, `1.`, `.5`, with an exponent `e-3` and one of `fFdD` after it;
* decimal with an exponent and no point, `1e10f`;
* hexadecimal floating `0x1.8p3`, which needs the binary exponent `p`.

The automaton below accepts exactly the texts of these forms; its states say which forms are
still open. The point of a hexadecimal floating literal pins the literal: `0x1.` is not read as
`0x1` and `.`, so `0x1.L` and `0x1.8p` are errors, while `0x` is read as `0` and `x`.
-/

namespace NamingLint.Java

open Text

/-- Where the number automaton is. -/
inductive NumberState
  | start
  | point
  | zero
  | decimal
  | fraction
  | exponentMark
  | exponentSign
  | exponent
  | hexMark
  | hex
  | hexFraction
  | binaryMark
  | binarySign
  | binaryExponent
  | binMark
  | bin
  | suffix
  deriving DecidableEq, Repr

def isDecimalPart (c : Char) : Bool := c.isDigit || c = '_'

def isHexPart (c : Char) : Bool := c.isHexDigit || c = '_'

def isBinaryPart (c : Char) : Bool := c = '0' || c = '1' || c = '_'

def isFloatSuffix (c : Char) : Bool := c = 'f' || c = 'F' || c = 'd' || c = 'D'

def isLongSuffix (c : Char) : Bool := c = 'l' || c = 'L'

def decimalStep (c : Char) : Option NumberState :=
  if isDecimalPart c then some .decimal
  else if c = '.' then some .fraction
  else if c = 'e' || c = 'E' then some .exponentMark
  else if isLongSuffix c || isFloatSuffix c then some .suffix
  else none

def NumberState.step : NumberState → Char → Option NumberState
  | .start, c =>
    if c = '0' then some .zero
    else if c.isDigit then some .decimal
    else if c = '.' then some .point
    else none
  | .point, c => if c.isDigit then some .fraction else none
  | .zero, c =>
    if c = 'x' || c = 'X' then some .hexMark
    else if c = 'b' || c = 'B' then some .binMark
    else decimalStep c
  | .decimal, c => decimalStep c
  | .fraction, c =>
    if isDecimalPart c then some .fraction
    else if c = 'e' || c = 'E' then some .exponentMark
    else if isFloatSuffix c then some .suffix
    else none
  | .exponentMark, c =>
    if c = '+' || c = '-' then some .exponentSign
    else if isDecimalPart c then some .exponent
    else none
  | .exponentSign, c => if isDecimalPart c then some .exponent else none
  | .exponent, c =>
    if isDecimalPart c then some .exponent
    else if isFloatSuffix c then some .suffix
    else none
  | .hexMark, c =>
    if isHexPart c then some .hex
    else if c = '.' then some .hexFraction
    else if c = 'p' || c = 'P' then some .binaryMark
    else none
  | .hex, c =>
    if isHexPart c then some .hex
    else if c = '.' then some .hexFraction
    else if c = 'p' || c = 'P' then some .binaryMark
    else if isLongSuffix c then some .suffix
    else none
  | .hexFraction, c =>
    if isHexPart c then some .hexFraction
    else if c = 'p' || c = 'P' then some .binaryMark
    else none
  | .binaryMark, c =>
    if c = '+' || c = '-' then some .binarySign
    else if isDecimalPart c then some .binaryExponent
    else none
  | .binarySign, c => if isDecimalPart c then some .binaryExponent else none
  | .binaryExponent, c =>
    if isDecimalPart c then some .binaryExponent
    else if isFloatSuffix c then some .suffix
    else none
  | .binMark, c => if isBinaryPart c then some .bin else none
  | .bin, c =>
    if isBinaryPart c then some .bin
    else if isLongSuffix c then some .suffix
    else none
  | .suffix, _ => none

def NumberState.complete : NumberState → Bool
  | .zero | .decimal | .fraction | .exponent | .hex | .binaryExponent | .bin | .suffix => true
  | _ => false

def NumberState.pinning : NumberState → Bool
  | .hexFraction => true
  | _ => false

/-- The automaton of number literals. -/
def numberAutomaton : Automaton NumberState where
  start := .start
  step := NumberState.step
  accepts := NumberState.complete
  pins := NumberState.pinning

end NamingLint.Java
