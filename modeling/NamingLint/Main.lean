import NamingLint.Cli.Run

open NamingLint NamingLint.Files NamingLint.Cli

def readInputs (paths : List String) : IO (List (String × List Nat)) := do
  let mut files := []
  for path in paths do
    try
      let bytes ← IO.FS.readBinFile path
      files := (path, bytes.toList.map (·.toNat)) :: files
    catch _ => pure ()
  return files.reverse

/-- Runs the command line over the files it names. -/
def main (args : List String) : IO UInt32 := do
  let cwd := locationFrom [] ((← IO.getEnv "PWD").getD "")
  let files ← readInputs (inputPaths cwd args)
  let out := run args (Workspace.ofFiles cwd files)
  IO.print out.stdout
  IO.eprint out.stderr
  return out.exit.toUInt32
