import NamingLint.Check.Violation
import NamingLint.Cli.Args
import NamingLint.Cli.Json

namespace NamingLint.Cli

open Check

structure FileResult where
  path : String
  outcome : Except (List String) (Array Violation)
  deriving Repr

structure Outcome where
  stdout : String
  stderr : String
  exit : Nat
  deriving DecidableEq, Repr

def chainText (chain : List String) : String := ": ".intercalate chain

def plural (count : Nat) (one many : String) : String := if count = 1 then one else many

namespace Report

def violations (results : List FileResult) : List (String × Violation) :=
  results.flatMap fun r =>
    match r.outcome with
    | .ok vs => vs.toList.map fun v => (r.path, v)
    | .error _ => []

def failures (results : List FileResult) : List (String × List String) :=
  results.filterMap fun r =>
    match r.outcome with
    | .ok _ => none
    | .error chain => some (r.path, chain)

def filesWithViolations (results : List FileResult) : Nat :=
  results.countP fun r =>
    match r.outcome with
    | .ok vs => !vs.isEmpty
    | .error _ => false

def countsByRole (results : List FileResult) : List (Role × Nat) :=
  let vs := violations results
  Role.all.map fun role => (role, vs.countP fun (_, v) => v.occurrence.role == role)

/-- The exit status: a failure wins over violations. -/
def exitCode (results : List FileResult) : Nat :=
  if !(failures results).isEmpty then 2
  else if !(violations results).isEmpty then 1
  else 0

def errorLines (results : List FileResult) : String :=
  String.join ((failures results).map fun (path, chain) =>
    "error: " ++ path ++ ": " ++ chainText chain ++ "\n")

def violationLines (path : String) (v : Violation) : String :=
  let o := v.occurrence
  path ++ ":" ++ toString o.line ++ ":" ++ toString o.column ++ ": " ++ v.severity.name ++ " [" ++
    o.role.name ++ "] " ++ v.message ++ "\n" ++
    match v.suggested with
    | some s => "  help: rename to '" ++ s ++ "'\n"
    | none => ""

def summary (results : List FileResult) : String :=
  let total := (violations results).length
  let failed := (failures results).length
  if total = 0 && failed = 0 then "All checks passed!\n"
  else
    let found :=
      if total = 0 then ""
      else
        let files := filesWithViolations results
        let byRole := ", ".intercalate ((countsByRole results).filterMap fun (role, n) =>
          if n = 0 then none else some (role.name ++ ": " ++ toString n))
        "Found " ++ toString total ++ " " ++ plural total "violation" "violations" ++ " in " ++
          toString files ++ " " ++ plural files "file" "files" ++ " (" ++ byRole ++ ").\n"
    let unchecked :=
      if failed = 0 then ""
      else toString failed ++ " " ++ plural failed "file" "files" ++ " could not be checked.\n"
    found ++ unchecked

/-- The text report; with `quiet` only its summary. -/
def text (results : List FileResult) (quiet : Bool) : String :=
  let body :=
    if quiet then ""
    else String.join ((violations results).map fun (path, v) => violationLines path v)
  body ++ summary results

def violationJson (path : String) (v : Violation) : JsonValue :=
  let o := v.occurrence
  .obj [("path", .str path), ("rule", .str Violation.rule), ("severity", .str v.severity.name),
    ("message", .str v.message), ("line", .num o.line), ("column", .num o.column),
    ("identifierName", .str o.name), ("role", .str o.role.name),
    ("expectedStyle", .str v.expected.name), ("actualStyle", .str v.actual.name),
    ("suggestedName", match v.suggested with
      | some s => .str s
      | none => .null)]

/-- The JSON report: the list of all violations. -/
def json (results : List FileResult) : String :=
  JsonValue.pretty 0 (.arr ((violations results).map fun (path, v) => violationJson path v)) ++
    "\n"

/-- The whole outcome of checking files: the report in the asked format, the failures and the
exit status. -/
def outcome (results : List FileResult) (format : Format) (quiet : Bool) : Outcome :=
  let out := match format with
    | .text => text results quiet
    | .json => json results
  ⟨out, errorLines results, exitCode results⟩

end Report

end NamingLint.Cli
