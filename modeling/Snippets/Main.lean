import Snippets.CommandLine.Execution
import Snippets.Machine

/-!
# The program

The files that the request names are read into memory, and the command runs on a machine
that has them.
-/

namespace Snippets

/-- Reads what a text names into an environment, if there is anything. -/
def readInto (environment : Environment) (text : String) : IO Environment := do
  match environment.expandHome (Path.ofText text) with
  | .error _ => return environment
  | .ok path =>
      let path := environment.resolve path
      let tree := environment.tree
      let place := (← IO.currentDir) / path.text
      if ← place.isDir then
        return { environment with tree := tree.putDirectories path.names }
      try
        let content ← IO.FS.readBinFile place
        let tree := tree.putDirectories path.names.dropLast
        return { environment with tree := tree.put path.names (.file content.toList .file) }
      catch _ => return environment

/-- The environment of the program, with the files that texts name. -/
def readEnvironment (texts : List String) : IO Environment := do
  let directory := Path.ofText (← IO.currentDir).toString
  let names := ["HOME", "PATH", "TMPDIR", Config.variableName]
  let bindings ← names.filterMapM fun name => do
    return (← IO.getEnv name).map fun value => (name, value)
  let named := texts ++ [Config.fileName] ++ (bindings.lookup Config.variableName).toList
  let start := (FileTree.empty.putDirectories directory.names).putDirectories ["tmp"]
  named.foldlM readInto ⟨start, directory.names, bindings⟩

end Snippets

open Snippets

/-- Does what the arguments ask for, and ends with the exit code. -/
def main (arguments : List String) : IO UInt32 := do
  let request := CommandLine.Request.ofArguments? arguments
  let environment ← readEnvironment (request.elim [] CommandLine.Request.files)
  let machine := Machine.ofEnvironment environment "/tmp"
  let (report, machine) :=
    CommandLine.run ⟨Machine.host, fun machine => machine.world.clock⟩ environment arguments
      machine
  IO.print (machine.takeOutput).1
  for line in report.lines do IO.println line
  match report.ending with
  | .exit code => return (code % 256).toNat.toUInt32
  | .escaped _ => return 1
