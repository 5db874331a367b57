import NamingLint.Text.Automaton
import NamingLint.Java.Lexeme.WordChars

/-!
# Words

A word is an identifier, a keyword or one of `true`, `false`, `null`. It starts with a
letter, `_` or `$`, and goes on with those and digits (see `WordChars`). A Unicode
escape `\uXXXX`, with one or more `u` and four hexadecimal digits, may stand for any character
of a word, the first one included. Once the `u` of an escape is read the word is pinned: an
escape that breaks off makes the whole word an error (`ab\u12` fails at `a`), while a backslash
without `u` ends the word before it.
-/

namespace NamingLint.Java

open Text

inductive WordState
  | start
  | inWord
  | backslash
  | units
  | hex (k : Nat)
  deriving DecidableEq, Repr

def isWordStart (c : Char) : Bool := isWordLetter c || c = '_' || c = '$'

def isWordPart (c : Char) : Bool := isWordLetter c || isWordDigit c || c = '_' || c = '$'

def WordState.step : WordState → Char → Option WordState
  | .start, c =>
    if c = '\\' then some .backslash else if isWordStart c then some .inWord else none
  | .inWord, c =>
    if c = '\\' then some .backslash else if isWordPart c then some .inWord else none
  | .backslash, c => if c = 'u' then some .units else none
  | .units, c =>
    if c = 'u' then some .units else if c.isHexDigit then some (.hex 0) else none
  | .hex k, c =>
    if c.isHexDigit then (if k < 2 then some (.hex (k + 1)) else some .inWord) else none

/-- The state that pins a word: inside the `u`s of an escape. -/
def WordState.pinning : WordState → Bool
  | .units => true
  | _ => false

/-- The automaton of words. -/
def wordAutomaton : Automaton WordState where
  start := .start
  step := WordState.step
  accepts s := s == .inWord
  pins := WordState.pinning

end NamingLint.Java
