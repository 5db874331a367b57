import NamingLint.Check.Violation
import NamingLint.Declaration.Extract
import NamingLint.Naming.Rules
import NamingLint.Naming.Suggest
import NamingLint.Text.Utf8

namespace NamingLint.Check

open Declaration Java Text

inductive InputError
  | notUtf8 (e : Utf8Error)
  | lex (e : LexError)
  deriving DecidableEq, Repr

namespace InputError

def message : InputError → String
  | notUtf8 e => "input is not valid UTF-8: " ++ e.message
  | lex e => "cannot tokenize input: " ++ e.message

def cause : InputError → String
  | notUtf8 e => e.message
  | lex e => e.message

end InputError

def violationOf (rules : NamingRules) (o : Occurrence) : Option Violation :=
  match rules.expected o.role with
  | none => none
  | some expected =>
    let actual := CasingStyle.classify o.name
    if actual == expected then none
    else some ⟨o, expected, actual, CasingStyle.suggest o.name expected⟩

/-- The violations of a text under `rules`, in the order of the names. -/
def check (source : String) (rules : NamingRules) : Except InputError (Array Violation) :=
  match extractOccurrences source with
  | .ok os => .ok (os.filterMap (violationOf rules))
  | .error e => .error (.lex e)

/-- The violations of UTF-8 bytes under `rules`. -/
def checkBytes (bytes : List Nat) (rules : NamingRules) : Except InputError (Array Violation) :=
  match decodeUtf8 bytes with
  | .ok source => check source rules
  | .error e => .error (.notUtf8 e)

end NamingLint.Check
