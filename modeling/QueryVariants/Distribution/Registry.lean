import QueryVariants.Distribution.WellKnown
import QueryVariants.FileTree
import QueryVariants.OrderedMap
import QueryVariants.Text.Latin1

/-!
# The registry of tables

A registry finds tables by name, aliases included. It is loaded from the bundled texts, from which
single distributions may be replaced by the files of a directory.
-/

namespace QueryVariants

namespace Table

/-- Reads a table from a distribution file. -/
def load (tree : FileTree) (path name : String) (fields weights : List String) :
    Except Error Table :=
  match tree.read path with
  | .error cause => .error (.distributionResource path cause)
  | .ok content => Table.parse name (Text.decodeLatin1 content) fields weights

end Table

structure Registry where
  tables : OrderedMap Table
  deriving DecidableEq, Repr

namespace Registry

open QueryVariants.Distribution

def empty : Registry := ⟨OrderedMap.empty⟩

/-- Registers a table under its own name, in the place of an old one. -/
def insert (registry : Registry) (table : Table) : Registry :=
  ⟨registry.tables.insert table.name table⟩

def ofTables (tables : List Table) : Registry :=
  tables.foldl insert empty

def find? (registry : Registry) (name : String) : Option Table :=
  registry.tables.find? (resolveAlias name)

def get (registry : Registry) (name : String) : Except Error Table :=
  match registry.find? name with
  | some table => .ok table
  | none => .error (.unknownDistribution name)

def contains (registry : Registry) (name : String) : Bool :=
  (registry.find? name).isSome

/-- The names of all tables in ascending order. -/
def names (registry : Registry) : List String :=
  registry.tables.keys.mergeSort (· ≤ ·)

/-- The well-known distributions from their bundled texts. -/
def bundled : Except Error Registry := do
  return ofTables (← wellKnown.mapM Shape.parseBundled)

/-- A well-known distribution from its file in `dir`, if there is one, or else from its bundled
text. -/
def loadShape (tree : FileTree) (dir : String) (shape : Shape) : Except Error Table :=
  let path := Path.join dir shape.fileName
  if tree.isFile path then Table.load tree path shape.name shape.fields shape.weights
  else shape.parseBundled

/-- The well-known distributions with the files of `dir` in front of the bundled texts. -/
def withOverrides (tree : FileTree) (dir : String) : Except Error Registry := do
  if !tree.isDirectory dir then .error (.missingDistributionDirectory dir)
  return ofTables (← wellKnown.mapM (loadShape tree dir))

end Registry

end QueryVariants
