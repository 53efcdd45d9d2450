import QueryVariants.Error
import QueryVariants.Path
import QueryVariants.Text.Utf8

/-!
# Files and directories

The files that the library reads are a value: a tree of named entries and a working directory. Looking
up a path walks it step by step, so a path through a file or through a missing entry fails with the
cause that belongs to that step.
-/

namespace QueryVariants

inductive Entry where
  | file (content : ByteArray)
  | directory

/-- The entries below the root, each under its list of steps, and the steps of the working
directory. -/
structure FileTree where
  entries : List (List String × Entry)
  current : List String

namespace FileTree

/-- The root is always a directory. -/
def entry? (tree : FileTree) (place : List String) : Option Entry :=
  if place.isEmpty then some .directory else tree.entries.lookup place

/-- The size of the longest name of an entry in bytes. -/
def maxNameSize : Nat := 255

/-- The size of the longest path in bytes. -/
def maxPathSize : Nat := 4095

/-- Why there is no entry of a name. -/
def absence (name : String) : FileError :=
  if maxNameSize < name.utf8ByteSize then .nameTooLong else .notFound

/-- Whether a text can be a path at all. -/
def checkPath (path : String) : Except FileError Unit :=
  if path.toList.contains (Char.ofNat 0) then .error .nulInPath
  else if path.isEmpty then .error .notFound
  else if maxPathSize < path.utf8ByteSize then .error .nameTooLong
  else .ok ()

/-- Follows the steps from a place. Every step starts from a directory. -/
def walk (tree : FileTree) (place : List String) : List String → Except FileError (List String)
  | [] => .ok place
  | step :: rest =>
    match tree.entry? place with
    | none => .error .notFound
    | some (.file _) => .error .notDirectory
    | some .directory =>
      if step = "" ∨ step = "." then tree.walk place rest
      else if step = ".." then tree.walk place.dropLast rest
      else
        match tree.entry? (place ++ [step]) with
        | none => .error (absence step)
        | some _ => tree.walk (place ++ [step]) rest

/-- Where a path starts. -/
def origin (tree : FileTree) (path : String) : List String :=
  if Path.isAbsolute path then [] else tree.current

def find (tree : FileTree) (path : String) : Except FileError Entry := do
  checkPath path
  let place ← tree.walk (tree.origin path) (Path.steps path)
  match tree.entry? place with
  | some entry => .ok entry
  | none => .error .notFound

def isDirectory (tree : FileTree) (path : String) : Bool :=
  tree.find path matches .ok .directory

def isFile (tree : FileTree) (path : String) : Bool :=
  tree.find path matches .ok (.file _)

/-- Whether the path leads to a file or a directory. -/
def holds (tree : FileTree) (path : String) : Bool :=
  tree.find path matches .ok _

def read (tree : FileTree) (path : String) : Except FileError ByteArray := do
  match ← tree.find path with
  | .file content => .ok content
  | .directory => .error .isDirectory

/-- Reads a file that must be UTF-8. -/
def readText (tree : FileTree) (path : String) : Except FileError String := do
  match String.fromUTF8? (← tree.read path) with
  | some text => .ok text
  | none => .error .invalidUtf8

/-- Reads a file of any bytes as text, with a mark for what is not UTF-8. -/
def readMarked (tree : FileTree) (path : String) : Except FileError String := do
  return Text.markedText (← tree.read path).toList

/-- The working directory and the directories above it, from the inside out. -/
def currentAndAbove (tree : FileTree) : List (List String) :=
  ((List.range (tree.current.length + 1)).map tree.current.take).reverse

/-- The file of a name in the working directory, or else in the nearest directory above it that has one. A directory
of that name is passed over. -/
def nearestFile? (tree : FileTree) (name : String) : Option ByteArray :=
  tree.currentAndAbove.findSome? fun place =>
    match tree.entry? (place ++ [name]) with
    | some (.file content) => some content
    | _ => none

/-- The full path of the place that a path leads to, or the path itself if it leads nowhere. -/
def canonical (tree : FileTree) (path : String) : String :=
  match (do checkPath path; tree.walk (tree.origin path) (Path.steps path)) with
  | .ok place => "/" ++ "/".intercalate place
  | .error _ => path

/-- The place at which a file of this path would be written: its directory must exist, and no
directory may stand in its place. -/
def target (tree : FileTree) (path : String) : Except FileError (List String) := do
  checkPath path
  match (Path.steps path).reverse.dropWhile (· = "") with
  | [] => .error .isDirectory
  | last :: parents =>
    let place ← tree.walk (tree.origin path) (parents.reverse ++ [""])
    if last = "." ∨ last = ".." ∨ path.toList.getLast? = some '/' then .error .isDirectory
    else
      match tree.entry? (place ++ [last]) with
      | some .directory => .error .isDirectory
      | some (.file _) => .ok (place ++ [last])
      | none => if maxNameSize < last.utf8ByteSize then .error .nameTooLong else .ok (place ++ [last])

/-- Puts an entry at a place, in the place of an old one. -/
def put (tree : FileTree) (place : List String) (entry : Entry) : FileTree :=
  { tree with entries := (place, entry) :: tree.entries.filter (·.1 ≠ place) }

/-- Puts an entry at a place and makes the directories above it that are missing. -/
def putWithParents (tree : FileTree) (place : List String) (entry : Entry) : FileTree :=
  let parents := ((List.range place.length).map place.take).filter fun parent =>
    (tree.entry? parent).isNone
  (parents.foldl (fun tree parent => tree.put parent .directory) tree).put place entry

/-- Puts an entry at the end of the steps from a place, and makes the directories on the way. -/
def putAlong (tree : FileTree) (entry : Entry) (place : List String) : List String → FileTree
  | [] => tree.putWithParents place entry
  | step :: rest =>
    if step = "" ∨ step = "." then tree.putAlong entry place rest
    else if step = ".." then
      let tree := if (tree.entry? place).isSome then tree else tree.putWithParents place .directory
      tree.putAlong entry place.dropLast rest
    else tree.putAlong entry (place ++ [step]) rest

/-- Puts an entry at a path, and makes the directories on the way. -/
def putPath (tree : FileTree) (path : String) (entry : Entry) : FileTree :=
  tree.putAlong entry (tree.origin path) (Path.steps path)

/-- A tree with nothing but the working directory and those above it. -/
def ofCurrent (current : List String) : FileTree :=
  (⟨[], current⟩ : FileTree).putWithParents current .directory

end FileTree

end QueryVariants
