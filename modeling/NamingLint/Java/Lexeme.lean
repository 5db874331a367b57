import NamingLint.Java.Lexeme.Word
import NamingLint.Java.Lexeme.Number
import NamingLint.Java.Lexeme.Quoted

/-!
# Lexemes

At each position the lexer takes the longest lexeme of any class: blanks and line comments,
which it skips, words, number, string and character literals, and operators. Three lexemes are
settled by looking further once they are chosen: `/*` runs to the first `*/` and is skipped, `"""`
runs to the next `"""` outside an escape, and `>` takes a following `>=` or `>>=` with it (but a
bare `>>` stays two tokens, so that closing brackets of nested type arguments stay apart). When
no class matches, or a comment or text block does not end, the lexer fails there.

The classes never tie: their lexemes start with different characters, or one of two lexemes
with a shared start is longer (`.` and `.5`, `/` and `/*`, `""` and `"""`). A word or number
whose reading breaks off after a pinning state (an escape's `u`, a hexadecimal point) is no
lexeme at all, and the lexer fails at its start.
-/

namespace NamingLint.Java

open Text

inductive LexemeClass
  | blank
  | lineComment
  | blockComment
  | word
  | number
  | string
  | textBlock
  | char
  | greater
  | operator
  deriving DecidableEq, Repr

inductive BlankState
  | start
  | blank
  deriving DecidableEq, Repr

def isSpace (c : Char) : Bool := c = ' ' || c = '\t' || c = '\x0c' || c = '\r' || c = '\n'

def blankAutomaton : Automaton BlankState where
  start := .start
  step _ c := if isSpace c then some .blank else none
  accepts s := s == .blank

def lineCommentLength : List Char → Nat
  | '/' :: '/' :: rest => 2 + (rest.takeWhile (· ≠ '\n')).length
  | _ => 0

def operators : List String :=
  ["(", ")", "\x7b", "\x7d", "[", "]", ";", ",", ".", "...", "@", "::", "=", "<", "!", "~", "?", ":",
   "->", "==", ">=", "<=", "!=", "&&", "||", "++", "--", "+", "-", "*", "/", "&", "|", "^", "%",
   "<<", "+=", "-=", "*=", "/=", "&=", "|=", "^=", "%=", "<<="]

def isOperatorPrefix (cs : List Char) (k : Nat) : Bool :=
  let p := cs.take k
  p.length == k && operators.contains (String.ofList p)

def operatorLength (cs : List Char) : Nat :=
  if isOperatorPrefix cs 3 then 3
  else if isOperatorPrefix cs 2 then 2
  else if isOperatorPrefix cs 1 then 1
  else 0

def openerLength (opener : List Char) (cs : List Char) : Nat :=
  if opener.isPrefixOf cs then opener.length else 0

/-- The length of each class's longest lexeme at the start of `cs`, `0` for none. -/
def candidates (cs : List Char) : List (LexemeClass × Nat) :=
  [(.blank, blankAutomaton.longest cs),
   (.lineComment, lineCommentLength cs),
   (.blockComment, openerLength ['/', '*'] cs),
   (.word, (wordAutomaton.scan cs).getD 0),
   (.number, (numberAutomaton.scan cs).getD 0),
   (.string, stringAutomaton.longest cs),
   (.textBlock, openerLength ['"', '"', '"'] cs),
   (.char, charAutomaton.longest cs),
   (.greater, openerLength ['>'] cs),
   (.operator, operatorLength cs)]

/-- The class with the longest lexeme at the start of `cs` and its length, if any is longer
than `0`; of equal lengths the first class in `candidates` is taken. -/
def longestLexeme (cs : List Char) : Option (LexemeClass × Nat) :=
  (candidates cs).foldl
    (fun best c =>
      if c.2 = 0 then best
      else match best with
        | some b => if b.2 < c.2 then some c else some b
        | none => some c)
    none

/-- Whether a word or a number starts at `cs` and breaks off after a pinning state. -/
def brokenLexeme (cs : List Char) : Bool :=
  (wordAutomaton.scan cs).isNone || (numberAutomaton.scan cs).isNone

def commentRest : List Char → Option Nat
  | '*' :: '/' :: _ => some 2
  | _ :: rest => (commentRest rest).map (· + 1)
  | [] => none

def textBlockRest : List Char → Option Nat
  | '\\' :: _ :: rest => (textBlockRest rest).map (· + 2)
  | '"' :: '"' :: '"' :: _ => some 3
  | _ :: rest => (textBlockRest rest).map (· + 1)
  | [] => none

/-- How many characters a `>` takes after it: three of `>>=`, two of `>=`, else none. -/
def greaterRest (rest : List Char) : Nat :=
  if ['>', '>', '='].isPrefixOf rest then 3
  else if ['>', '='].isPrefixOf rest then 2
  else 0

/-- The class and the whole length of the lexeme at the start of `cs`, after the look further
for block comments, text blocks and `>`; `none` when no lexeme starts there, a word or number
breaks off, or a comment or text block does not end. -/
def lexemeAt (cs : List Char) : Option (LexemeClass × Nat) :=
  if brokenLexeme cs then none
  else
    match longestLexeme cs with
    | some (.blockComment, _) => (commentRest (cs.drop 2)).map fun k => (.blockComment, 2 + k)
    | some (.textBlock, _) => (textBlockRest (cs.drop 3)).map fun k => (.textBlock, 3 + k)
    | some (.greater, _) => some (.greater, 1 + greaterRest (cs.drop 1))
    | other => other

end NamingLint.Java
