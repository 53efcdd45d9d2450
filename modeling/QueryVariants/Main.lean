import QueryVariants.Command.Run

/-!
# The program

The program takes a picture of the files that its command line names, runs the command line on it, and
then does what the outcome says.
-/

namespace QueryVariants.Program

open Command

def pathOf (place : List String) : String :=
  "/" ++ "/".intercalate place

/-- Adds what stands at a place. A file that cannot be read, such as one without permission, counts as missing, so a
run goes on as if it were not there, where it should report the cause; in the picture only a directory in the place
of a file fails to be read. -/
def addPlace (tree : FileTree) (place : List String) : IO FileTree := do
  let path := (← IO.currentDir) / pathOf place
  if ← path.isDir then return tree.put place .directory
  match ← (IO.FS.readBinFile path).toBaseIO with
  | .ok content => return tree.put place (.file content)
  | .error _ => return tree

/-- Adds what stands at each step of a path, and the entries of a directory at its end. -/
def addPath (tree : FileTree) (path : String) : IO FileTree := do
  let mut tree := tree
  let mut place := tree.origin path
  for step in Path.steps path do
    if step = ".." then
      place := place.dropLast
    else if step ≠ "" ∧ step ≠ "." then
      place := place ++ [step]
      tree ← addPlace tree place
  let directory := (← IO.currentDir) / pathOf place
  if ← directory.isDir then
    for entry in ← directory.readDir do
      tree ← addPlace tree (place ++ [entry.fileName])
  return tree

/-- The working directory with the files that every run reads. -/
def workingDirectory : IO FileTree := do
  let current := (Path.steps (← IO.currentDir).toString).filter (!·.isEmpty)
  let tree ← addPlace (FileTree.ofCurrent current) (current ++ [Config.fileName])
  tree.currentAndAbove.foldlM (fun tree place => addPlace tree (place ++ [envFileName])) tree

/-- The variables that a run may ask for. -/
def readVariables (tree : FileTree) : IO Environment := do
  let mentioned := match tree.nearestFile? envFileName with
    | some content => mentionedNames (Text.validText content)
    | none => []
  ([templatesVariable, distributionsVariable] ++ mentioned).filterMapM fun name => do
    return (← IO.getEnv name).map fun value => (name, value)

/-- Does what an effect says. Here alone a write can fail, and the path of the file is reported. -/
def carryOutEffect : Effect → IO (Except String Unit)
  | .print bytes => do
    (← IO.getStdout).write ⟨bytes.toArray⟩
    return .ok ()
  | .report text => do
    IO.eprint text
    return .ok ()
  | .create path place => do
    let written ← (IO.FS.writeBinFile (pathOf place) ByteArray.empty).toBaseIO
    return written.mapError fun e => s!"Failed to create {path}: {e}"
  | .append path place bytes => do
    let written ← (IO.FS.withFile (pathOf place) .append fun file => file.write ⟨bytes.toArray⟩).toBaseIO
    return written.mapError fun e => s!"Failed to write {path}: {e}"

/-- Does what an outcome says, up to an effect that fails. -/
def carryOut (outcome : Outcome) : IO UInt32 := do
  for effect in outcome.effects do
    if let .error message ← carryOutEffect effect then
      IO.eprintln ("Error: " ++ message)
      return 1
  return outcome.exit.toUInt32

end QueryVariants.Program

def main (arguments : List String) : IO UInt32 := do
  let start ← QueryVariants.Program.workingDirectory
  let environment ← QueryVariants.Program.readVariables start
  let tree ← (QueryVariants.Command.paths start environment arguments).foldlM
    QueryVariants.Program.addPath start
  QueryVariants.Program.carryOut (QueryVariants.Command.run tree environment arguments)
