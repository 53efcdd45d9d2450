import QueryVariants.Output.Piece
import QueryVariants.Template.Catalog

/-!
# Generating queries

A generator holds everything that an expansion reads. The text of a query is a function of its number
and the seed; a batch is generated in the order of its list, and stops at the first query that fails.
-/

namespace QueryVariants

structure Generator where
  registry : Registry
  rowCounts : RowCounts
  catalog : Catalog

/-- A report after a query of a batch. -/
structure Progress where
  id : Nat
  done : Nat
  total : Nat
  deriving DecidableEq, Repr

namespace Generator

/-- Reads all templates of a source. -/
def ofSource (tree : FileTree) (source : TemplateSource) (registry : Registry)
    (rowCounts : RowCounts) : Except Error Generator := do
  let catalog ← Catalog.load tree source registry
  return ⟨registry, rowCounts, catalog⟩

/-- The bundled tables and templates. -/
def bundled (tree : FileTree) : Except Error Generator := do
  ofSource tree .bundled (← Registry.bundled) .scaleOne

/-- The text of a query for a seed. -/
def generateSql (generator : Generator) (id : Nat) (seed : UInt64) : Except Error String := do
  let template ← generator.catalog.get id
  template.expand seed generator.registry generator.rowCounts

/-- Generates the rest of a batch of `total` queries of which `done` are done. -/
def generateFrom (generator : Generator) (seed : UInt64) (total done : Nat) :
    List Nat → List Progress × Except Error (List GeneratedQuery)
  | [] => ([], .ok [])
  | id :: ids =>
    match generator.generateSql id seed with
    | .error e => ([], .error e)
    | .ok sql =>
      let (progress, result) := generator.generateFrom seed total (done + 1) ids
      (⟨id, done + 1, total⟩ :: progress, result.map (⟨id, seed, sql⟩ :: ·))

/-- Generates a batch. The reports are made as far as the batch goes. -/
def generate (generator : Generator) (ids : List Nat) (seed : UInt64) :
    List Progress × Except Error (List GeneratedQuery) :=
  generator.generateFrom seed ids.length 0 ids

/-- Reads a macro by itself. -/
def parseMacro (generator : Generator) (source : String) : Except Error Macro.Expr :=
  Macro.Expr.parse source generator.registry

end Generator

end QueryVariants
