import QueryVariants.Template.Expand
import QueryVariants.Template.Source

/-!
# The catalog of queries

Queries are numbered from 1 to 99. A catalog holds the templates that a source has for these numbers,
all of them read.
-/

namespace QueryVariants

/-- The numbers a query can have, in ascending order. -/
def queryIds : List Nat :=
  List.range' 1 99

def validateQueryId (id : Nat) : Except Error Nat :=
  if 1 ≤ id ∧ id ≤ 99 then .ok id else .error (.queryIdOutOfRange id)

structure Catalog where
  /-- Templates by query number, in ascending order. -/
  templates : List (Nat × Template)

namespace Catalog

/-- Reads the templates of the given numbers that a source has. -/
def loadIds (tree : FileTree) (source : TemplateSource) (registry : Registry) :
    List Nat → Except Error (List (Nat × Template))
  | [] => .ok []
  | id :: ids => do
    match ← source.load tree id with
    | none => loadIds tree source registry ids
    | some text =>
      let template ← Template.parse id text registry
      let rest ← loadIds tree source registry ids
      return (id, template) :: rest

def load (tree : FileTree) (source : TemplateSource) (registry : Registry) :
    Except Error Catalog :=
  (loadIds tree source registry queryIds).map Catalog.mk

def get (catalog : Catalog) (id : Nat) : Except Error Template := do
  let id ← validateQueryId id
  match catalog.templates.lookup id with
  | some template => return template
  | none => .error (.unknownQuery id)

def ids (catalog : Catalog) : List Nat :=
  catalog.templates.map Prod.fst

def size (catalog : Catalog) : Nat :=
  catalog.templates.length

end Catalog

end QueryVariants
