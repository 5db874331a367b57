import NamingLint.Text.Automaton

namespace NamingLint.Java

open Text

inductive QuotedState
  | start
  | opened
  | body
  | escape
  | closed
  deriving DecidableEq, Repr

def isLineEnd (c : Char) : Bool := c = '\r' || c = '\n'

def QuotedState.step (q : Char) (empty : Bool) : QuotedState → Char → Option QuotedState
  | .start, c => if c = q then some .opened else none
  | .opened, c =>
    if isLineEnd c then none
    else if c = q then (if empty then some .closed else none)
    else if c = '\\' then some .escape
    else some .body
  | .body, c =>
    if isLineEnd c then none
    else if c = q then some .closed
    else if c = '\\' then some .escape
    else some .body
  | .escape, c => if isLineEnd c then none else some .body
  | .closed, _ => none

/-- The automaton of literals quoted by `q`. -/
def quotedAutomaton (q : Char) (empty : Bool) : Automaton QuotedState where
  start := .start
  step := QuotedState.step q empty
  accepts s := s == .closed

def stringAutomaton : Automaton QuotedState := quotedAutomaton '"' true

def charAutomaton : Automaton QuotedState := quotedAutomaton '\'' false

end NamingLint.Java
