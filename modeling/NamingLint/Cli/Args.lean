import NamingLint.Cli.Similarity

namespace NamingLint.Cli

inductive Format
  | text
  | json
  deriving DecidableEq, Repr

structure CheckOptions where
  paths : List String
  config : Option String
  rules : List String
  format : Format
  quiet : Bool
  deriving DecidableEq, Repr

inductive Command
  | check (opts : CheckOptions)
  | classify (names : List String)
  | print (text : String)
  deriving DecidableEq, Repr

structure UsageError where
  message : String
  deriving DecidableEq, Repr

inductive Halt
  | fail (e : UsageError)
  | print (text : String)
  deriving DecidableEq, Repr

inductive Arg
  | config
  | rule
  | format
  | quiet
  | verbose
  | help
  | version
  | paths
  | names
  deriving DecidableEq, Repr

namespace Arg

def display : Arg → String
  | config => "--config <CONFIG>"
  | rule => "--rule <ROLE=STYLE>"
  | format => "--format <FORMAT>"
  | quiet => "--quiet"
  | verbose => "--verbose"
  | help => "--help"
  | version => "--version"
  | paths => "[PATHS]..."
  | names => "<NAMES>..."

def takesValue : Arg → Bool
  | config | rule | format => true
  | _ => false

def isPositional : Arg → Bool
  | paths | names => true
  | _ => false

def choices : Arg → List String
  | format => ["text", "json"]
  | _ => []

def choicesLine (a : Arg) : String :=
  if a.choices.isEmpty then "" else "\n  [possible values: " ++ ", ".intercalate a.choices ++ "]"

end Arg

def versionText : String := "casecheck 0.1.0\n"

def mainHelp : String :=
  "Check Java identifiers against naming conventions\n\n" ++
  "Usage: casecheck [OPTIONS] <COMMAND>\n\n" ++
  "Commands:\n" ++
  "  check     Check Java files for naming convention violations\n" ++
  "  classify  Print the casing style of each name\n" ++
  "  help      Print this message or the help of the given subcommand(s)\n\n" ++
  "Options:\n" ++
  "  -v, --verbose  Enable debug logging (overrides RUST_LOG)\n" ++
  "  -h, --help     Print help\n" ++
  "  -V, --version  Print version\n"

def checkHelp : String :=
  "Check Java files for naming convention violations\n\n" ++
  "Usage: casecheck check [OPTIONS] [PATHS]...\n\n" ++
  "Arguments:\n" ++
  "  [PATHS]...  Files or directories to check (defaults to the current directory)\n\n" ++
  "Options:\n" ++
  "      --config <CONFIG>    Path to casecheck.toml (searched upwards from the current " ++
  "directory if omitted)\n" ++
  "      --rule <ROLE=STYLE>  Override the expected style for a role, e.g. " ++
  "`method=camelCase` or `class=off`\n" ++
  "      --format <FORMAT>    Output format [default: text] [possible values: text, json]\n" ++
  "  -v, --verbose            Enable debug logging (overrides RUST_LOG)\n" ++
  "  -q, --quiet              Only print the summary\n" ++
  "  -h, --help               Print help\n"

def classifyHelp : String :=
  "Print the casing style of each name\n\n" ++
  "Usage: casecheck classify [OPTIONS] <NAMES>...\n\n" ++
  "Arguments:\n" ++
  "  <NAMES>...  Identifiers to classify\n\n" ++
  "Options:\n" ++
  "  -v, --verbose  Enable debug logging (overrides RUST_LOG)\n" ++
  "  -h, --help     Print help\n"

def helpHelp : String :=
  "Print this message or the help of the given subcommand(s)\n\n" ++
  "Usage: casecheck help [COMMAND]...\n\n" ++
  "Arguments:\n" ++
  "  [COMMAND]...  Print help for the subcommand(s)\n"

inductive Scope
  | main
  | check
  | classify
  | help
  deriving DecidableEq, Repr

def distinctArgs (used : List Arg) : List Arg :=
  used.foldl (fun acc a => if acc.contains a then acc else acc ++ [a]) []

namespace Scope

def name : Scope → String
  | main => "casecheck"
  | check => "casecheck check"
  | classify => "casecheck classify"
  | help => "casecheck help"

def plainUsage : Scope → String
  | main => "casecheck [OPTIONS] <COMMAND>"
  | check => "casecheck check [OPTIONS] [PATHS]..."
  | classify => "casecheck classify [OPTIONS] <NAMES>..."
  | help => "casecheck help [COMMAND]..."

def helpText : Scope → String
  | main => mainHelp
  | check => checkHelp
  | classify => classifyHelp
  | help => helpHelp

def longs : Scope → List (String × Arg)
  | main => [("verbose", .verbose), ("help", .help), ("version", .version)]
  | check =>
    [("config", .config), ("rule", .rule), ("format", .format), ("quiet", .quiet),
      ("verbose", .verbose), ("help", .help)]
  | classify => [("verbose", .verbose), ("help", .help)]
  | help => []

def long? (scope : Scope) (name : String) : Option Arg :=
  (scope.longs.find? (·.1 == name)).map (·.2)

def short? (scope : Scope) (c : Char) : Option Arg :=
  if c = 'v' && scope != .help then some .verbose
  else if c = 'h' && scope != .help then some .help
  else if c = 'V' && scope = .main then some .version
  else if c = 'q' && scope = .check then some .quiet
  else none

def positional? : Scope → Option Arg
  | check => some .paths
  | classify => some .names
  | _ => none

def commands : Scope → List (String × Scope)
  | main => [("check", .check), ("classify", .classify), ("help", .help)]
  | _ => []

def usage (scope : Scope) (used : List Arg) : String :=
  if used.isEmpty then scope.plainUsage
  else
    scope.name ++
      String.join ((distinctArgs (used.filter (!·.isPositional))).map (" " ++ ·.display)) ++
      match scope.positional? with
      | some a => " " ++ a.display
      | none => " <COMMAND>"

end Scope

def failure (message : String) (tips : List String) (usage : Option String) : Halt :=
  .fail ⟨"error: " ++ message ++
    (if tips.isEmpty then "" else "\n" ++ String.join (tips.map ("\n  tip: " ++ ·))) ++
    (match usage with
      | some u => "\n\nUsage: " ++ u
      | none => "") ++
    "\n\nFor more information, try '--help'.\n"⟩

def similarTip (kind : String) : List String → List String
  | [] => []
  | [one] => ["a similar " ++ kind ++ " exists: '" ++ one ++ "'"]
  | many => ["some similar " ++ kind ++ "s exist: " ++ ", ".intercalate (many.map
      fun n => "'" ++ n ++ "'")]

def repeated (scope : Scope) (a : Arg) : Halt :=
  failure ("the argument '" ++ a.display ++ "' cannot be used multiple times") []
    (some scope.plainUsage)

def missingValue (a : Arg) : Halt :=
  failure ("a value is required for '" ++ a.display ++ "' but none was supplied" ++ a.choicesLine)
    [] none

def invalidValue (a : Arg) (v : String) : Halt :=
  if v.isEmpty then missingValue a
  else
    failure ("invalid value '" ++ v ++ "' for '" ++ a.display ++ "'" ++ a.choicesLine)
      (similarTip "value" (mostSimilar v a.choices).toList) none

def unexpectedValue (scope : Scope) (used : List Arg) (a : Arg) (v : String) : Halt :=
  failure ("unexpected value '" ++ v ++ "' for '" ++ a.display ++
      "' found; no more were expected") [] (some (scope.usage (used ++ [a])))

def asValueTip (scope : Scope) (arg : String) : List String :=
  if scope.positional?.isSome then ["to pass '" ++ arg ++ "' as a value, use '-- " ++ arg ++ "'"]
  else []

def unknownLong (scope : Scope) (used : List Arg) (name : String) : Halt :=
  let arg := "--" ++ name
  let message := "unexpected argument '" ++ arg ++ "' found"
  match (mostSimilar name (scope.longs.map (·.1))).bind
      fun n => (scope.long? n).map (n, ·) with
  | some (n, a) =>
    failure message (similarTip "argument" ["--" ++ n]) (some (scope.usage (used ++ [a])))
  | none => failure message (asValueTip scope arg) (some (scope.usage used))

def unknownShort (scope : Scope) (c : Char) : Halt :=
  let arg := "-" ++ c.toString
  failure ("unexpected argument '" ++ arg ++ "' found") (asValueTip scope arg)
    (some scope.plainUsage)

def unknownCommand (scope : Scope) (word : String) (similar : Bool) : Halt :=
  failure ("unrecognized subcommand '" ++ word ++ "'")
    (if similar then similarTip "subcommand" (similarNames word (scope.commands.map (·.1)))
      else [])
    (some scope.plainUsage)

def missingCommand : Halt :=
  failure ("'casecheck' requires a subcommand but one was not provided\n" ++
    "  [subcommands: check, classify, help]") [] (some Scope.main.plainUsage)

def isOption (arg : String) : Bool := arg.startsWith "-" && arg != "-"

def splitLong (arg : String) : String × Option String :=
  match (arg.toList.drop 2).splitOn '=' with
  | [] => ("", none)
  | [name] => (String.ofList name, none)
  | name :: rest => (String.ofList name, some (String.ofList (List.intercalate ['='] rest)))

def Format.parse (value : String) : Except Halt Format :=
  if value = "text" then .ok .text
  else if value = "json" then .ok .json
  else .error (invalidValue .format value)

structure Reading where
  used : List Arg
  config : Option String
  rules : List String
  format : Option Format
  values : List String
  deriving DecidableEq, Repr

namespace Reading

def empty : Reading := ⟨[], none, [], none, []⟩

def has (s : Reading) (a : Arg) : Bool := s.used.contains a

def flag (s : Reading) (scope : Scope) (a : Arg) : Except Halt Reading :=
  if a = .help then .error (.print scope.helpText)
  else if a = .version then .error (.print versionText)
  else if s.has a then .error (repeated scope a)
  else .ok { s with used := s.used ++ [a] }

def setValue (s : Reading) (scope : Scope) (a : Arg) (v : String) : Except Halt Reading :=
  let s' := { s with used := s.used ++ [a] }
  if a = .config then
    if s.has a then .error (repeated scope a)
    else if v.isEmpty then .error (missingValue a)
    else .ok { s' with config := some v }
  else if a = .format then
    if s.has a then .error (repeated scope a)
    else do
      let f ← Format.parse v
      pure { s' with format := some f }
  else .ok { s' with rules := v :: s.rules }

def addValue (s : Reading) (a : Arg) (v : String) : Except Halt Reading :=
  if a = .paths && v.isEmpty then .error (missingValue a)
  else .ok { s with used := s.used ++ [a], values := v :: s.values }

def shorts (s : Reading) (scope : Scope) : List Char → Except Halt Reading
  | [] => .ok s
  | c :: cs =>
    match scope.short? c with
    | some a => do (← s.flag scope a).shorts scope cs
    | none => .error (unknownShort scope c)

def option (s : Reading) (scope : Scope) (arg : String) (next : Option String) :
    Except Halt (Reading × Bool) :=
  if arg.startsWith "--" then
    let (name, attached) := splitLong arg
    match scope.long? name with
    | none => .error (unknownLong scope s.used name)
    | some a =>
      if a.takesValue then
        match attached, next with
        | some v, _ => do pure (← s.setValue scope a v, false)
        | none, some v =>
          if isOption v then .error (missingValue a) else do pure (← s.setValue scope a v, true)
        | none, none => .error (missingValue a)
      else
        match attached with
        | some v => .error (unexpectedValue scope s.used a v)
        | none => do pure (← s.flag scope a, false)
  else do pure (← s.shorts scope (arg.toList.drop 1), false)

end Reading

/-- Reads the arguments of a command; `dashes` says whether `--` came already. -/
def readArgs (scope : Scope) (s : Reading) (dashes : Bool) : List String → Except Halt Reading
  | [] => .ok s
  | arg :: rest =>
    if dashes || !isOption arg then
      match scope.positional? with
      | some a => do readArgs scope (← s.addValue a arg) dashes rest
      | none => .error (unknownCommand scope arg true)
    else if arg = "--" then readArgs scope s true rest
    else
      match s.option scope arg rest.head? with
      | .ok (s, took) => readArgs scope s false (rest.drop (if took then 1 else 0))
      | .error e => .error e
termination_by args => args.length
decreasing_by all_goals simp only [List.length_cons, List.length_drop]; omega

def Reading.checkOptions (s : Reading) : CheckOptions :=
  ⟨if s.values.isEmpty then ["."] else s.values.reverse, s.config, s.rules.reverse,
    s.format.getD .text, s.has .quiet⟩

def Reading.classifyNames (s : Reading) : Except Halt (List String) :=
  if s.values.isEmpty then
    .error (failure "the following required arguments were not provided:\n  <NAMES>..." []
      (some (Scope.classify.usage (s.used ++ [.names]))))
  else .ok s.values.reverse

/-- The help text that `help` followed by command names asks for, from a scope. -/
def helpFor (scope : Scope) : List String → Except Halt String
  | [] => .ok scope.helpText
  | word :: rest =>
    match (scope.commands.find? (·.1 == word)).map (·.2) with
    | some sc => helpFor sc rest
    | none => .error (unknownCommand scope word false)

def runCommand (scope : Scope) (args : List String) : Except Halt Command :=
  match scope with
  | .check => do
    let s ← readArgs .check .empty false args
    pure (.check s.checkOptions)
  | .classify => do
    let s ← readArgs .classify .empty false args
    pure (.classify (← s.classifyNames))
  | _ => do pure (.print (← helpFor .main args))

def commandArgs (s : Reading) (dashes : Bool) : List String → Except Halt Command
  | [] => if s.used.isEmpty then .error (.fail ⟨mainHelp⟩) else .error missingCommand
  | arg :: rest =>
    let command := (Scope.main.commands.find? (·.1 == arg)).map (·.2)
    if dashes then
      match command with
      | some _ =>
        .error (failure ("unexpected argument '" ++ arg ++ "' found")
          ["subcommand '" ++ arg ++ "' exists; to use it, remove the '--' before it"]
          (some Scope.main.plainUsage))
      | none => .error (unknownCommand .main arg true)
    else if !isOption arg then
      match command with
      | some sc => runCommand sc rest
      | none => .error (unknownCommand .main arg true)
    else if arg = "--" then commandArgs s true rest
    else
      match s.option .main arg none with
      | .ok (s, _) => commandArgs s false rest
      | .error e => .error e

/-- Reads a command line, without the program's name. -/
def parseArgs (args : List String) : Except UsageError Command :=
  match commandArgs .empty false args with
  | .ok c => .ok c
  | .error (.print text) => .ok (.print text)
  | .error (.fail e) => .error e

end NamingLint.Cli
