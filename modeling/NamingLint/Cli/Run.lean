import NamingLint.Check.Input
import NamingLint.Cli.Report
import NamingLint.Config.Settings
import NamingLint.Files.Workspace
import NamingLint.Naming.Classify

/-!
# Running a command

`classify` prints each name with its style, separated by a tab, one name a line.

`check` first settles its settings and rules, and stops with status 2 if it cannot:
- the settings are read from the file `--config` names, else from the first `casecheck.toml`
  found in the working directory or above it, else they are the defaults;
- the rules start from the defaults, take the `[naming]` entries and then each `--rule` in order.

Then it checks the paths it is given, `.` when none. A path that names a directory stands for
the files below it whose extension the settings accept, sorted by path; any other path stands for
itself, whatever its extension, so a missing file is reported rather than skipped. Each file is
read and checked on its own, and the report says what each gave.
-/

namespace NamingLint.Cli

open Files Config Check

def settingsFileName : String := "casecheck.toml"

def settingsCandidates (cwd : List String) : List String :=
  (List.range (cwd.length + 1)).map fun k =>
    "/" ++ "/".intercalate (cwd.take (cwd.length - k) ++ [settingsFileName])

/-- The path of the settings file nearest the working directory. -/
def findSettings (ws : Workspace) : Option String := (settingsCandidates ws.cwd).find? ws.isFile

def invalidSettingsText : String := "TOML parse error"

def loadSettings (ws : Workspace) (path : String) : Except (List String) Settings :=
  let context := "invalid config " ++ path
  match ws.readText path with
  | .error e =>
    .error [context, "failed to read config file " ++ path ++ ": " ++ e.message, e.message]
  | .ok text =>
    match Settings.parse? text with
    | some s => .ok s
    | none =>
      .error [context, "failed to parse config: " ++ invalidSettingsText, invalidSettingsText]

/-- The settings of a run: from the named file, else from the nearest settings file, else the
defaults. -/
def resolveSettings (ws : Workspace) (explicit : Option String) : Except (List String) Settings :=
  match explicit.orElse fun _ => findSettings ws with
  | some path => loadSettings ws path
  | none => .ok Settings.default

def ruleChain (context : String) (e : RuleError) : List String :=
  context :: e.message :: e.cause?.toList

def buildRules (s : Settings) (overrides : List String) : Except (List String) NamingRules := do
  let rules ← s.rules.mapError (ruleChain "invalid [naming] section")
  overrides.foldlM
    (fun r entry =>
      (r.applyOverride entry).mapError (ruleChain ("invalid --rule '" ++ entry ++ "'")))
    rules

/-- The files that the given paths stand for, in order: a directory's accepted files sorted by
path, and any other path as it is. -/
def collectFiles (ws : Workspace) (s : Settings) (roots : List String) : List String :=
  roots.flatMap fun root =>
    if ws.isDir root then ((ws.walk root).filter s.accepts).mergeSort pathLe
    else [root]

def checkFile (ws : Workspace) (rules : NamingRules) (path : String) : FileResult :=
  ⟨path, match ws.read path with
    | .error e => .error ["cannot read " ++ path, e.message]
    | .ok bytes =>
      match checkBytes bytes rules with
      | .ok vs => .ok vs
      | .error e => .error [e.message, e.cause]⟩

def classifyLines (names : List String) : String :=
  String.join (names.map fun name => name ++ "\t" ++ (CasingStyle.classify name).name ++ "\n")

def runCheck (ws : Workspace) (opts : CheckOptions) : Outcome :=
  let setup := do
    let s ← resolveSettings ws opts.config
    let rules ← buildRules s opts.rules
    pure (s, rules)
  match setup with
  | .error chain => ⟨"", "error: " ++ chainText chain ++ "\n", 2⟩
  | .ok (s, rules) =>
    Report.outcome ((collectFiles ws s opts.paths).map (checkFile ws rules)) opts.format opts.quiet

def inputPaths (cwd : List String) (args : List String) : List String :=
  match parseArgs args with
  | .ok (.check opts) =>
    (match opts.config with
      | some path => [path]
      | none => settingsCandidates cwd) ++ opts.paths
  | _ => []

/-- Runs a command line, without the program's name, over a workspace. -/
def run (args : List String) (ws : Workspace) : Outcome :=
  match parseArgs args with
  | .error e => ⟨"", e.message, 2⟩
  | .ok (.print text) => ⟨text, "", 0⟩
  | .ok (.classify names) => ⟨classifyLines names, "", 0⟩
  | .ok (.check opts) => runCheck ws opts

end NamingLint.Cli
