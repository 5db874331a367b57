import NamingLint.Files.Path
import NamingLint.Text.Utf8

namespace NamingLint.Files

inductive FsError
  | notFound
  | notADirectory
  | isADirectory
  | notUtf8
  deriving DecidableEq, Repr

def FsError.message : FsError → String
  | .notFound => "No such file or directory (os error 2)"
  | .notADirectory => "Not a directory (os error 20)"
  | .isADirectory => "Is a directory (os error 21)"
  | .notUtf8 => "stream did not contain valid UTF-8"

inductive Node
  | file (bytes : List Nat)
  | directory
  deriving DecidableEq, Repr

/-- Files in memory, named by location, and the location of the working directory. -/
structure Workspace where
  cwd : List String
  files : List (List String × List Nat)
  deriving Repr

def locationFrom (start : List String) (path : String) : List String :=
  ((path.splitOn "/").foldl
    (fun (acc : List String) p =>
      if p = "" || p = "." then acc
      else if p = ".." then acc.drop 1
      else p :: acc)
    (if path.startsWith "/" then [] else start.reverse)).reverse

namespace Workspace

def ofFiles (cwd : List String) (files : List (String × List Nat)) : Workspace :=
  ⟨cwd, files.map fun (p, b) => (locationFrom cwd p, b)⟩

def nodeAt (ws : Workspace) (loc : List String) : Option Node :=
  match ws.files.find? (·.1 == loc) with
  | some (_, bytes) => some (.file bytes)
  | none =>
    if loc.isPrefixOf ws.cwd || ws.files.any (fun f => loc.isPrefixOf f.1) then some .directory
    else none

def enter (ws : Workspace) (loc : List String) : Except FsError (List String) :=
  match ws.nodeAt loc with
  | some .directory => .ok loc
  | some (.file _) => .error .notADirectory
  | none => .error .notFound

def follow (ws : Workspace) (loc : List String) : List String → Except FsError (List String)
  | [] => .ok loc
  | [""] => ws.enter loc
  | "" :: ps => ws.follow loc ps
  | "." :: ps => do ws.follow (← ws.enter loc) ps
  | ".." :: ps => do ws.follow ((← ws.enter loc).dropLast) ps
  | name :: ps => do ws.follow ((← ws.enter loc) ++ [name]) ps

/-- The location a path names; an absolute path starts at the top of the tree, any other at the
working directory. The empty path names nothing. -/
def locate (ws : Workspace) (path : String) : Except FsError (List String) :=
  match path.splitOn "/" with
  | [""] => .error .notFound
  | "" :: ps => ws.follow [] ps
  | ps => ws.follow ws.cwd ps

def stat (ws : Workspace) (path : String) : Except FsError Node := do
  match ws.nodeAt (← ws.locate path) with
  | some n => .ok n
  | none => .error .notFound

def isDir (ws : Workspace) (path : String) : Bool :=
  match ws.stat path with
  | .ok .directory => true
  | _ => false

def isFile (ws : Workspace) (path : String) : Bool :=
  match ws.stat path with
  | .ok (.file _) => true
  | _ => false

def read (ws : Workspace) (path : String) : Except FsError (List Nat) := do
  match ← ws.stat path with
  | .file bytes => .ok bytes
  | .directory => .error .isADirectory

def readText (ws : Workspace) (path : String) : Except FsError String := do
  match Text.decodeUtf8 (← ws.read path) with
  | .ok text => .ok text
  | .error _ => .error .notUtf8

def joinName (path name : String) : String :=
  if path.isEmpty || path.endsWith "/" then path ++ name else path ++ "/" ++ name

/-- The files below the directory a path names, each named by joining the path with the names on
the way down, in the order the workspace holds them. -/
def walk (ws : Workspace) (path : String) : List String :=
  match ws.locate path with
  | .ok loc =>
    ws.files.filterMap fun (f, _) =>
      if loc.isPrefixOf f && loc.length < f.length then
        some ((f.drop loc.length).foldl joinName path)
      else none
  | .error _ => []

end Workspace

end NamingLint.Files
