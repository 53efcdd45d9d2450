/-!
# Paths as text

Paths are joined as texts and never normalized; a path that begins with `/` stands for itself.
-/

namespace QueryVariants.Path

def isAbsolute (path : String) : Bool :=
  path.toList.head? == some '/'

/-- The steps of a path between its slashes. -/
def steps (path : String) : List String :=
  (path.toList.splitOn '/').map String.ofList

/-- The path that `path` means inside `dir`. -/
def join (dir path : String) : String :=
  if isAbsolute path || dir.isEmpty then path
  else if dir.toList.getLast? == some '/' then dir ++ path
  else dir ++ "/" ++ path

/-- The last step that names something; steps that stay in place do not count. -/
def fileName? (path : String) : Option String :=
  match ((steps path).filter fun step => !step.isEmpty && step != ".").getLast? with
  | some ".." => none
  | last => last

/-- What follows the last period of the file name. A name that only begins with a period has no
extension. -/
def extension? (path : String) : Option String := do
  let reversed := (← fileName? path).toList.reverse
  let ending := reversed.takeWhile (· ≠ '.')
  let stem := reversed.drop (ending.length + 1)
  if stem.isEmpty then none else some (String.ofList ending.reverse)

end QueryVariants.Path
