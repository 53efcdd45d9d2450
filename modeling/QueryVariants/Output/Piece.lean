import QueryVariants.JsonValue
import QueryVariants.Text.Blank
import QueryVariants.Text.Upper

/-!
# Output of generated queries

A batch is written as a sequence of pieces. Each piece names the action that fails when it cannot be
written; the whole output is the pieces one after the other.
-/

namespace QueryVariants

/-- An expanded query. -/
structure GeneratedQuery where
  query : Nat
  seed : UInt64
  sql : String
  deriving DecidableEq, Repr

namespace Output

/-- A part of the output and what is being done when it is written. -/
structure Piece where
  action : String
  text : String
  deriving DecidableEq, Repr

inductive Format where
  | sql
  | json
  deriving DecidableEq, Repr

namespace Format

/-- Finds a format by its name; the case of ASCII letters does not count. -/
def ofName? (name : String) : Option Format :=
  let name := Text.asciiLower name.toList
  if name = "sql".toList then some sql
  else if name = "json".toList then some json
  else none

end Format

/-- A script: for each query a header, the text ended by a semicolon, and an empty line. -/
def sqlPieces (queries : List GeneratedQuery) : List Piece :=
  queries.flatMap fun generated =>
    let body := String.ofList (Text.trimEnd generated.sql.toList)
    [⟨s!"writing header for query{generated.query}",
      s!"-- query{generated.query} (seed {generated.seed})\n"⟩,
     ⟨s!"writing query{generated.query}", body ++ ";\n"⟩,
     ⟨"writing newline", "\n"⟩]

/-- A query as a JSON object. -/
def jsonObject (generated : GeneratedQuery) : JsonValue :=
  .object [
    ("query", .number generated.query),
    ("seed", .number generated.seed.toNat),
    ("sql", .string generated.sql)]

/-- The pieces of the objects, with a comma after each but the last. -/
def jsonItems : List GeneratedQuery → List String
  | [] => []
  | [last] => ["\n  ", (jsonObject last).compact]
  | generated :: rest => "\n  " :: (jsonObject generated).compact :: "," :: jsonItems rest

/-- An array of objects, one to a line. -/
def jsonPieces (queries : List GeneratedQuery) : List Piece :=
  let closing := if queries.isEmpty then ["]\n"] else ["\n", "]\n"]
  ("[" :: jsonItems queries ++ closing).map (Piece.mk "writing JSON")

def Format.pieces : Format → List GeneratedQuery → List Piece
  | .sql => sqlPieces
  | .json => jsonPieces

/-- The whole output of a batch. -/
def Format.text (format : Format) (queries : List GeneratedQuery) : String :=
  String.join ((format.pieces queries).map Piece.text)

end Output

end QueryVariants
