/-!
# Automata over characters

A token class is a deterministic automaton over characters, and its lexeme at a position is the
longest prefix of the input that the automaton accepts. Reading stops as soon as the automaton
has no move, so the cost is the length of the lexeme and the characters seen past it before the
automaton gets stuck.

Some states pin the lexeme: once a character leads into such a state, the reader gives up the
shorter prefixes accepted before it, so getting stuck before the next accepted prefix is a
failure rather than a fall back to a shorter lexeme (`scan`).
-/

namespace NamingLint.Text

/-- A deterministic automaton with states `σ`; a missing move means no word continues. Entering a
state for which `pins` holds gives up the prefixes accepted so far. -/
structure Automaton (σ : Type) where
  start : σ
  step : σ → Char → Option σ
  accepts : σ → Bool
  pins : σ → Bool := fun _ => false

namespace Automaton

variable {σ : Type}

def longestFrom (a : Automaton σ) (s : σ) (n best : Nat) : List Char → Nat
  | [] => best
  | c :: rest =>
    match a.step s c with
    | none => best
    | some t => a.longestFrom t (n + 1) (if a.accepts t then n + 1 else best) rest

def longest (a : Automaton σ) (cs : List Char) : Nat := a.longestFrom a.start 0 0 cs

/-- The length of the longest prefix of `cs` accepted from state `s`, where `n` characters are
already read, `best` is the longest accepted length so far and `pinned` says whether a pinning
state was entered since; `none` when the automaton gets stuck while pinned. -/
def scanFrom (a : Automaton σ) (s : σ) (n best : Nat) (pinned : Bool) : List Char → Option Nat
  | [] => if pinned then none else some best
  | c :: rest =>
    match a.step s c with
    | none => if pinned then none else some best
    | some t =>
      if a.accepts t then a.scanFrom t (n + 1) (n + 1) false rest
      else a.scanFrom t (n + 1) best (pinned || a.pins t) rest

def scan (a : Automaton σ) (cs : List Char) : Option Nat := a.scanFrom a.start 0 0 false cs

def run (a : Automaton σ) (s : σ) : List Char → Option σ
  | [] => some s
  | c :: rest => (a.step s c).bind fun t => a.run t rest

def Accepts (a : Automaton σ) (cs : List Char) : Prop :=
  ∃ t, a.run a.start cs = some t ∧ a.accepts t = true

end Automaton

end NamingLint.Text
