import NamingLint.Declaration.Occurrence
import NamingLint.Naming.Style

namespace NamingLint.Check

open Declaration

inductive Severity
  | warning
  | error
  deriving DecidableEq, Repr

def Severity.name : Severity → String
  | .warning => "warning"
  | .error => "error"

/-- A declared name in the wrong style. -/
structure Violation where
  occurrence : Occurrence
  expected : CasingStyle
  actual : CasingStyle
  suggested : Option String
  deriving DecidableEq, Repr

namespace Violation

def rule : String := "NamingConvention"

def message (v : Violation) : String :=
  "Name '" ++ v.occurrence.name ++ "' must be " ++ v.expected.description ++ " (found " ++
    v.actual.description ++ ")."

def severity (v : Violation) : Severity :=
  if v.actual == .unrecognized then .error else .warning

end Violation

end NamingLint.Check
