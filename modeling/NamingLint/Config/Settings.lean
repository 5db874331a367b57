import NamingLint.Config.Toml
import NamingLint.Files.Path
import NamingLint.Naming.Rules

namespace NamingLint.Config

open Toml

/-- The contents of a settings file. -/
structure Settings where
  naming : List (String × String)
  extensions : List String
  deriving DecidableEq, Repr

namespace Settings

def default : Settings := ⟨[], ["java"]⟩

def datetimeKey : String := "$__toml_private_datetime"

def namingOf? (v : Value) : Option (List (String × String)) :=
  match v with
  | .table _ es => es.mapM fun (k, v) =>
    match v with
    | .string s => some (k, s)
    | _ => none
  | .datetime d => some [(datetimeKey, d.render)]
  | _ => none

def stringsOf? (v : Value) : Option (List String) :=
  match v with
  | .array items => items.mapM fun v =>
    match v with
    | .string s => some s
    | _ => none
  | _ => none

def extensionsOf? (v : Value) : Option (List String) :=
  match v with
  | .table _ es =>
    es.foldlM (fun (_ : List String) (k, v) => if k = "extensions" then stringsOf? v else none)
      ["java"]
  | .array [] => some ["java"]
  | .array (first :: _) => stringsOf? first
  | _ => none

def ofToml? (root : Value) : Option Settings :=
  match root with
  | .table _ es =>
    es.foldlM
      (fun (s : Settings) (k, v) =>
        if k = "naming" then (namingOf? v).map fun n => { s with naming := n }
        else if k = "files" then (extensionsOf? v).map fun e => { s with extensions := e }
        else none)
      default
  | _ => none

/-- The settings of a file's text, or `none` when it is not valid. -/
def parse? (text : String) : Option Settings :=
  (Toml.parse text).bind ofToml? |>.map fun s =>
    { s with naming := NamingRules.sortEntries s.naming }

def accepts (s : Settings) (path : String) : Bool :=
  match Files.extension? path with
  | some ext => s.extensions.contains ext
  | none => false

def rules (s : Settings) : Except RuleError NamingRules := NamingRules.tryFromConfig s.naming

end Settings

end NamingLint.Config
