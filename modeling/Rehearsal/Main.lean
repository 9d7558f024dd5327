/-
  Rehearsal.Main
  ──────────────────────────────────────
  **The command line program.**

  Reads the files that the arguments name, runs the program on them and writes
  what it leaves behind.
-/
import Rehearsal.Command

namespace Rehearsal.Main

/-- Reads a tree of files; `top` tells whether links are followed. -/
partial def snapshot (path : String) (top : Bool) : IO (Option FileTree) := do
  let file := System.mkFilePath [path]
  try
    let kind ← if top then pure (← file.metadata).type else pure (← file.symlinkMetadata).type
    match kind with
    | .file => return some (.file (← IO.FS.readBinFile file).toList)
    | .dir =>
        let mut entries : FileTree.Entries := []
        for entry in ← file.readDir do
          let inner := String.ofList (FileTree.join path.toList entry.fileName.toList)
          if let some tree ← snapshot inner false then
            entries := (entry.fileName.toList, tree) :: entries
        return some (.directory entries)
    | .symlink => return some (.link [])
    | _ => return none
  catch _ => return none

/-- What a path and the paths of the files below it lead to. -/
def known (path : Text) (tree : FileTree) : List (Text × FileTree) :=
  match tree with
  | .directory entries =>
      (path, tree) :: (FileTree.filesBelow entries).filterMap fun below =>
        (FileTree.walk 0 [entries] below).map fun file => (Discovery.pathOf path below, file)
  | tree => [(path, tree)]

/-- Reads everything that the arguments name. -/
def files (a : Arguments) : IO Discovery.Lookup := do
  let mut table : List (Text × FileTree) := []
  for path in a.config.toList ++ a.paths do
    if let some tree ← snapshot (String.ofList path) true then
      table := table ++ known path tree
  return fun path => table.lookup path

/-- The lines that tell of a fatal fault. -/
def fatalText (n : Notice) : Text :=
  n.code ++ ("\n\n  × " : Text) ++ n.message ++ ['\n']
    ++ (match n.help with
      | some help => ("  help: " : Text) ++ help ++ ['\n']
      | none => [])

/-- The lines that tell of a mistake on the command line. -/
def usageText : UsageStop → Text
  | .displayHelp | .displayVersion => []
  | _ => "error: the arguments cannot be used\n\nFor more information, try '--help'.\n"

/-- Runs the program on its arguments. -/
def run (arguments : List String) : IO UInt32 := do
  let words := arguments.map String.toList
  let lookup ← match Arguments.parse words with
    | .ok a => files a
    | .error _ => pure fun _ => none
  let ending := Command.run lookup words
  let errors ← IO.getStderr
  errors.putStr (String.ofList ending.report)
  if let some fatal := ending.fatal then
    errors.putStr (String.ofList (fatalText fatal.notice))
  if let some stop := ending.usage then
    errors.putStr (String.ofList (usageText stop))
  let output ← IO.getStdout
  output.putStr (String.ofList ending.output)
  output.flush
  return UInt32.ofNat ending.exitCode

end Rehearsal.Main

/-- Runs the program on the arguments of the process. -/
def main (arguments : List String) : IO UInt32 := Rehearsal.Main.run arguments
