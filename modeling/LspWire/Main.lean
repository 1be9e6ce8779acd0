import LspWire.Conformance.Command

/-! The command line: checks the fixtures of the working directory, or of the directory given as
the first argument, and exits with 1 unless all of them pass. -/

namespace LspWire

/-- What stands at a path, taken from the working directory unless it is absolute. Directories
below it are only looked into when `deep`. -/
partial def readTree (deep : Bool) (path : String) : IO (Option FileTree) := do
  let place := (← IO.currentDir) / path
  if ← place.isDir then
    let mut entries := []
    for found in ← place.readDir do
      let inside := place / found.fileName
      if !(← inside.isDir) then
        if let some entry ← readTree false inside.toString then
          entries := (found.fileName, entry) :: entries
      else if deep then
        if let some entry ← readTree true inside.toString then
          entries := (found.fileName, entry) :: entries
    return some (.directory entries)
  else if ← place.pathExists then
    return some (.file (← IO.FS.readBinFile place).toList)
  else return none

def runCommand (args : List String) : IO Outcome := do
  let root := (← IO.currentDir).toString
  let file ← readTree false (joinPath root Config.fileName)
  match Command.settings root file args with
  | .error error => return .failed (error.chain fun _ => "not a TOML document")
  | .ok config =>
    let tree ← readTree config.fixtures.recursive (config.fixtureDir root)
    match Command.report root config (tree.map Place.top) with
    | .error failure => return .failed failure.message
    | .ok report => return .ofReport report

end LspWire

def main (args : List String) : IO UInt32 := do
  let outcome ← LspWire.runCommand args
  IO.print outcome.output
  if let some complaint := outcome.complaint then IO.eprintln complaint
  return UInt32.ofNat outcome.exitCode
