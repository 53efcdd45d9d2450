import QueryVariants.Distribution.Record
import QueryVariants.Error
import QueryVariants.Random.Range
import QueryVariants.Text.Numeral
import QueryVariants.Text.Outline
import QueryVariants.Text.Quoted
import QueryVariants.Weights

/-!
# Distribution tables

A table has rows of texts, the values, and of numbers, the weights. A draw over a weight column picks a
row with probability proportional to its weight: a number from one to the total of the column belongs
to the first row at which the running sum of the weights reaches it.
-/

namespace QueryVariants

open Text QueryVariants.Distribution

structure Row where
  values : List String
  weights : List Nat
  deriving DecidableEq, Repr

/-- A named table. `Table.parse` makes tables with at least one row, as many values in each row as
`fields` and as many weights as `weights`, whose column totals fit in 64 bits. -/
structure Table where
  name : String
  /-- The names of the value columns. -/
  fields : List String
  /-- The names of the weight columns. -/
  weights : List String
  rows : List Row
  deriving DecidableEq, Repr

namespace Table

/-- Reads the weights of a record, each of which must keep the running sum of its column below
`2 ^ 64`. -/
def readWeights (fail : String → Error) : List Nat → List (List Char) → Except Error (List Nat)
  | sum :: sums, raw :: raws =>
    match readSigned? raw with
    | none => .error (fail s!"weight '{String.ofList raw}' is not an integer")
    | some weight =>
      if weight < 0 then .error (fail s!"weight cannot be negative: {weight}")
      else if UInt64.size ≤ sum + weight.toNat then .error (fail "cumulative weight overflows")
      else (readWeights fail sums raws).map (weight.toNat :: ·)
  | _, _ => .ok []

/-- Reads one record of a table whose columns add up to `sums` so far. -/
def readRow (fail : String → Error) (fields weights : List String) (sums : List Nat)
    (record : List Char) : Except Error Row :=
  match splitParts record with
  | [left, right] =>
    let values := (splitValues left).map String.ofList
    let rawWeights := splitValues right
    if values.length ≠ fields.length then
      .error (fail s!"expected {fields.length} values but found {values.length}: {quoteList values}")
    else if rawWeights.length ≠ weights.length then
      .error (fail (s!"expected {weights.length} weights but found {rawWeights.length}: " ++
        quoteList (rawWeights.map String.ofList)))
    else
      (readWeights fail sums rawWeights).map fun weights => ⟨values, weights⟩
  | parts =>
    .error (fail (s!"expected 2 colon-separated parts but found {parts.length}: " ++
      String.ofList record))

/-- Reads the records in order and stops at the first that does not fit. -/
def readRows (name : String) (fields weights : List String) :
    List Nat → List (Nat × List Char) → Except Error (List Row)
  | _, [] => .ok []
  | sums, (line, record) :: rest =>
    match readRow (.distributionFormat name line) fields weights sums record with
    | .error e => .error e
    | .ok row =>
      (readRows name fields weights (List.zipWith (· + ·) sums row.weights) rest).map (row :: ·)

/-- Reads a table from the text of a distribution file. -/
def parse (name text : String) (fields weights : List String) : Except Error Table :=
  match readRows name fields weights (weights.map fun _ => 0) (records text.toList) with
  | .error e => .error e
  | .ok [] => .error (.emptyDistribution name)
  | .ok rows => .ok ⟨name, fields, weights, rows⟩

/-- The number of rows. -/
def size (table : Table) : Nat :=
  table.rows.length

/-- The values of a column from the first row to the last. -/
def valueColumn (table : Table) (field : Nat) : Except Error (List String) :=
  if field < table.fields.length then .ok (table.rows.filterMap (·.values[field]?))
  else .error (.fieldOutOfRange table.name field table.fields.length)

/-- A row number is reported as a signed 64-bit number. -/
def rowError (table : Table) (row : Nat) : Error :=
  .rowOutOfRange table.name ((row : Int).bmod UInt64.size) table.size

/-- The value of a column in a row, both counted from zero. -/
def cell (table : Table) (field row : Nat) : Except Error String := do
  let values ← table.valueColumn field
  match values[row]? with
  | some value => .ok value
  | none => .error (table.rowError row)

/-- The value of a column in the row that a whole number selects modulo the number of rows. -/
def cellModulo (table : Table) (field : Nat) (index : Int) : Except Error String := do
  let values ← table.valueColumn field
  table.cell field (index % (values.length : Int)).toNat

def unknownWeight (table : Table) (weight : String) : Error :=
  .unknownWeight table.name weight table.weights

/-- The weights of a column from the first row to the last. -/
def weightColumn (table : Table) (column : Nat) : Except Error (List Nat) :=
  if column < table.weights.length then .ok (table.rows.filterMap (·.weights[column]?))
  else .error (table.unknownWeight (toString (column + 1)))

/-- The running sums of a weight column. -/
def cumulative (table : Table) (column : Nat) : Except Error (List Nat) :=
  (table.weightColumn column).map (Weights.runningSums 0)

def totalWeight (table : Table) (column : Nat) : Except Error Nat :=
  (table.weightColumn column).map Weights.total

def weightAt (table : Table) (column row : Nat) : Except Error Nat := do
  let weights ← table.weightColumn column
  match weights[row]? with
  | some weight => .ok weight
  | none => .error (table.rowError row)

/-- The first row whose running sum reaches `weight`. -/
def rowForWeight (table : Table) (column weight : Nat) : Except Error Nat := do
  let sums ← table.cumulative column
  match sums.findIdx? (weight ≤ ·) with
  | some row => .ok row
  | none => .error (.weightOverflow table.name column weight)

/-- Draws a row with probability proportional to the weights of a column. -/
def drawRow (table : Table) (column : Nat) (stream : Random.Stream) :
    Except Error Nat × Random.Stream :=
  match table.totalWeight column with
  | .error e => (.error e, stream)
  | .ok 0 => (.error (.emptyWeights table.name column), stream)
  | .ok total =>
    let (offset, stream) := stream.below total
    (table.rowForWeight column (1 + offset), stream)

/-- Draws a row and reads one of its values. -/
def drawValue (table : Table) (field column : Nat) (stream : Random.Stream) :
    Except Error String × Random.Stream :=
  let (row, stream) := table.drawRow column stream
  (row.bind (table.cell field), stream)

/-- The weight column that a macro names: by its name, or else by its position counted from one. -/
def weightIndex (table : Table) (weight : String) : Except Error Nat :=
  match table.weights.findIdx? (· = weight) with
  | some column => .ok column
  | none =>
    match readUnsigned? weight.toList with
    | some position =>
      if 1 ≤ position ∧ position ≤ table.weights.length then .ok (position - 1)
      else .error (table.unknownWeight weight)
    | none => .error (table.unknownWeight weight)

/-- The name, the size and the column names of a table. -/
def outline (table : Table) : Outline :=
  let names (items : List String) := Outline.list (items.map fun item => .leaf (quote item))
  .record "DistributionTable" [
    ("name", .leaf (quote table.name)),
    ("rows", .leaf (toString table.size)),
    ("fields", names table.fields),
    ("weights", names table.weights)]

end Table

end QueryVariants
