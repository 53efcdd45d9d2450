import QueryVariants.OrderedMap
import QueryVariants.Text.Upper

/-!
# Row counts

How many rows each relation has, under names that do not distinguish case.
-/

namespace QueryVariants

structure RowCounts where
  /-- Counts under upper-case names. -/
  counts : OrderedMap Nat
  deriving DecidableEq, Repr

namespace RowCounts

/-- The sizes of the relations at scale factor one. -/
def scaleOne : RowCounts :=
  ⟨OrderedMap.ofList [
    ("CALL_CENTER", 8),
    ("CATALOG_PAGE", 11718),
    ("CATALOG_RETURNS", 144067),
    ("CATALOG_SALES", 1441548),
    ("CUSTOMER", 100000),
    ("CUSTOMER_ADDRESS", 50000),
    ("CUSTOMER_DEMOGRAPHICS", 1920800),
    ("DATE_DIM", 73049),
    ("DBGEN_VERSION", 1),
    ("HOUSEHOLD_DEMOGRAPHICS", 7200),
    ("INCOME_BAND", 20),
    ("INVENTORY", 11745000),
    ("ITEM", 18000),
    ("PROMOTION", 300),
    ("REASON", 35),
    ("SHIP_MODE", 20),
    ("STORE", 12),
    ("STORE_RETURNS", 287514),
    ("STORE_SALES", 2880404),
    ("TIME_DIM", 86400),
    ("WAREHOUSE", 5),
    ("WEB_PAGE", 60),
    ("WEB_RETURNS", 71763),
    ("WEB_SALES", 719384),
    ("WEB_SITE", 1)]⟩

def find? (rowCounts : RowCounts) (relation : String) : Option Nat :=
  rowCounts.counts.find? (Text.upperString relation)

/-- Replaces or adds counts. Names are taken in ascending order, so of two names that differ only in
case the greater one decides. -/
def withOverrides (rowCounts : RowCounts) (overrides : List (String × Nat)) : RowCounts :=
  let ordered := overrides.mergeSort fun a b => a.1 ≤ b.1
  ⟨rowCounts.counts.insertMany (ordered.map fun (name, count) => (Text.upperString name, count))⟩

end RowCounts

end QueryVariants
