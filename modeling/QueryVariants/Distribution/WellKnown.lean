import QueryVariants.Distribution.Bundled
import QueryVariants.Distribution.Table

/-!
# Well-known distributions

The distributions that macros may name, with the columns that their files must have and the bundled
text that stands in for a missing file.
-/

namespace QueryVariants.Distribution

structure Shape where
  name : String
  fields : List String
  weights : List String
  /-- The text of the bundled file. -/
  text : String

namespace Shape

/-- The name of a file that replaces the bundled text. -/
def fileName (shape : Shape) : String :=
  shape.name ++ ".dst"

def parse (shape : Shape) (text : String) : Except Error Table :=
  Table.parse shape.name text shape.fields shape.weights

def parseBundled (shape : Shape) : Except Error Table :=
  shape.parse shape.text

end Shape

/-- The well-known distributions in the order in which they are loaded. -/
def wellKnown : List Shape := [
  ⟨"fips_county", ["fips", "county", "st", "state", "zip_prefix", "gmt_offset"],
    ["uniform", "population", "timezone", "in_zone_1", "in_zone_2", "in_zone_3"],
    Bundled.fipsCounty⟩,
  ⟨"i_manager_id", ["index", "low", "high"], ["1", "2"], Bundled.iManagerId⟩,
  ⟨"cities", ["city"], ["usgs", "uniform", "large", "medium", "small", "unified"], Bundled.cities⟩,
  ⟨"categories", ["name", "class", "has_size"], ["uniform"], Bundled.categories⟩,
  ⟨"gender", ["gender"], ["1"], Bundled.gender⟩,
  ⟨"marital_status", ["status"], ["1"], Bundled.maritalStatus⟩,
  ⟨"education", ["education"], ["1"], Bundled.education⟩,
  ⟨"colors", ["color"], ["1", "2", "3"], Bundled.colors⟩,
  ⟨"units", ["unit"], ["1"], Bundled.units⟩,
  ⟨"sizes", ["size"], ["1", "2"], Bundled.sizes⟩,
  ⟨"ship_mode_carrier", ["carrier"], ["1"], Bundled.shipModeCarrier⟩,
  ⟨"return_reasons", ["reason"], ["1", "2", "3", "4", "5", "6"], Bundled.returnReasons⟩]

def shape? (name : String) : Option Shape :=
  wellKnown.find? (·.name = name)

/-- Store names are drawn from the carriers; every other name stands for itself. -/
def resolveAlias (name : String) : String :=
  if name = "stores" then "ship_mode_carrier" else name

end QueryVariants.Distribution
