import QueryVariants.Text.Lines

/-!
# Bundled distribution files

The texts of the distributions that are always available, line by line.
-/

namespace QueryVariants.Distribution.Bundled

open Text (unlines)

/-- Counties with their codes, states and time zones. -/
def fipsCounty : String := unlines [
  "--",
  "-- fips_county: one row per county",
  "-- values:  fips, county, st, state, zip prefix, gmt offset",
  "-- weights: uniform, population, timezone, in_zone_1, in_zone_2, in_zone_3",
  "--",
  "1001,Autauga County,AL,Alabama,360,-6:1,55,2,0,1,0",
  "1073,Jefferson County,AL,Alabama,352,-6:1,659,2,0,1,0",
  "2020,Anchorage Municipality,AK,Alaska,995,-9:1,291,4,0,0,0",
  "4013,Maricopa County,AZ,Arizona,850,-7:1,4485,3,0,0,1",
  "6037,Los Angeles County,CA,California,900,-8:1,10039,4,0,0,1",
  "6073,San Diego County,CA,California,919,-8:1,3338,4,0,0,1",
  "8031,Denver County,CO,Colorado,802,-7:1,727,3,0,0,1",
  "12086,Miami-Dade County,FL,Florida,331,-5:1,2716,1,1,0,0",
  "13121,Fulton County,GA,Georgia,303,-5:1,1063,1,1,0,0",
  "15003,Honolulu County,HI,Hawaii,968,-10:1,974,5,0,0,0",
  "17031,Cook County,IL,Illinois,606,-6:1,5150,2,0,1,0",
  "18097,Marion County,IN,Indiana,462,-5:1,964,1,1,0,0",
  "21111,Jefferson County,KY,Kentucky,402,-5:1,766,1,1,0,0",
  "22071,Orleans Parish,LA,Louisiana,701,-6:1,390,2,0,1,0",
  "24510,Baltimore city,MD,Maryland,212,-5:1,593,1,1,0,0",
  "25025,Suffolk County,MA,Massachusetts,021,-5:1,803,1,1,0,0",
  "26163,Wayne County,MI,Michigan,482,-5:1,1749,1,1,0,0",
  "27053,Hennepin County,MN,Minnesota,554,-6:1,1265,2,0,1,0",
  "29510,St. Louis city,MO,Missouri,631,-6:1,300,2,0,1,0",
  "31055,Douglas County,NE,Nebraska,681,-6:1,571,2,0,1,0",
  "32003,Clark County,NV,Nevada,891,-8:1,2266,4,0,0,1",
  "35001,Bernalillo County,NM,New Mexico,871,-7:1,679,3,0,0,1",
  "36061,New York County,NY,New York,100,-5:1,1628,1,1,0,0",
  "37119,Mecklenburg County,NC,North Carolina,282,-5:1,1110,1,1,0,0",
  "39035,Cuyahoga County,OH,Ohio,441,-5:1,1235,1,1,0,0",
  "40109,Oklahoma County,OK,Oklahoma,731,-6:1,797,2,0,1,0",
  "41051,Multnomah County,OR,Oregon,972,-8:1,812,4,0,0,1",
  "42101,Philadelphia County,PA,Pennsylvania,191,-5:1,1584,1,1,0,0",
  "47157,Shelby County,TN,Tennessee,381,-6:1,937,2,0,1,0",
  "48201,Harris County,TX,Texas,770,-6:1,4713,2,0,1,0",
  "48453,Travis County,TX,Texas,787,-6:1,1273,2,0,1,0",
  "49035,Salt Lake County,UT,Utah,841,-7:1,1160,3,0,0,1",
  "51059,Fairfax County,VA,Virginia,220,-5:1,1147,1,1,0,0",
  "53033,King County,WA,Washington,981,-8:1,2252,4,0,0,1",
  "55079,Milwaukee County,WI,Wisconsin,532,-6:1,945,2,0,1,0"]

/-- Ranges of manager numbers. -/
def iManagerId : String := unlines [
  "-- i_manager_id: manager id buckets",
  "-- values:  index, low, high",
  "-- weights: 1 (uniform), 2 (skewed toward low ids)",
  "1,1,10:1,40",
  "2,11,20:1,20",
  "3,21,30:1,12",
  "4,31,40:1,8",
  "5,41,50:1,6",
  "6,51,60:1,5",
  "7,61,70:1,4",
  "8,71,80:1,3",
  "9,81,90:1,1",
  "10,91,100:1,1"]

/-- City names by size. -/
def cities : String := unlines [
  "-- cities",
  "-- values:  city",
  "-- weights: usgs, uniform, large, medium, small, unified",
  "Midway:212,1,0,0,1,1",
  "Fairview:199,1,0,0,1,1",
  "Oak Grove:186,1,0,1,0,1",
  "Five Points:171,1,0,0,1,1",
  "Pleasant Hill:164,1,0,1,0,1",
  "Centerville:158,1,0,1,0,1",
  "Riverside:151,1,1,0,0,1",
  "Mount Pleasant:147,1,0,1,0,1",
  "Liberty:142,1,0,1,0,1",
  "Union:139,1,0,0,1,1",
  "Salem:134,1,1,0,0,1",
  "Greenwood:129,1,0,1,0,1",
  "Springdale:121,1,0,1,0,1",
  "Oakland:118,1,1,0,0,1",
  "Georgetown:115,1,0,1,0,1",
  "Clinton:112,1,0,1,0,1",
  "Franklin:110,1,1,0,0,1",
  "Glendale:104,1,1,0,0,1",
  "Jamestown:98,1,0,0,1,1",
  "Shiloh:95,1,0,0,1,1",
  "Bethel:91,1,0,0,1,1",
  "Lakeview:88,1,0,0,1,1",
  "Marion:86,1,0,1,0,1",
  "Newport:83,1,1,0,0,1",
  "Ashland:80,1,0,1,0,1"]

/-- Item categories. -/
def categories : String := unlines [
  "-- categories",
  "-- values:  name, class id, has size",
  "-- weights: uniform",
  "Women,1,1:1",
  "Men,2,1:1",
  "Children,3,1:1",
  "Shoes,4,1:1",
  "Music,5,0:1",
  "Jewelry,6,0:1",
  "Home,7,0:1",
  "Sports,8,0:1",
  "Books,9,0:1",
  "Electronics,10,0:1"]

/-- Genders. -/
def gender : String := unlines [
  "-- gender",
  "M:50",
  "F:50"]

/-- Marital statuses. -/
def maritalStatus : String := unlines [
  "-- marital_status",
  "M:20",
  "S:20",
  "D:20",
  "W:20",
  "U:20"]

/-- Degrees of education. -/
def education : String := unlines [
  "-- education",
  "Primary:20",
  "Secondary:20",
  "College:20",
  "2 yr Degree:10",
  "4 yr Degree:15",
  "Advanced Degree:10",
  "Unknown:5"]

/-- Color names. -/
def colors : String := unlines [
  "-- colors",
  "-- weights: 1 (uniform), 2 (skewed), 3 (rare)",
  "almond:1,10,0",
  "antique:1,10,0",
  "aquamarine:1,10,0",
  "azure:1,10,0",
  "beige:1,10,0",
  "bisque:1,10,0",
  "black:1,40,0",
  "blanched:1,10,0",
  "blue:1,40,0",
  "blush:1,10,0",
  "brown:1,20,0",
  "burlywood:1,10,0",
  "burnished:1,10,0",
  "chartreuse:1,10,0",
  "chiffon:1,10,0",
  "chocolate:1,20,0",
  "coral:1,10,0",
  "cornflower:1,10,0",
  "cornsilk:1,10,0",
  "cream:1,20,0",
  "cyan:1,10,0",
  "dark:1,20,0",
  "deep:1,10,0",
  "dim:1,10,0",
  "dodger:1,10,0",
  "drab:1,10,0",
  "firebrick:1,10,0",
  "floral:1,10,0",
  "forest:1,10,0",
  "frosted:1,10,0",
  "gainsboro:1,0,1",
  "ghost:1,0,1",
  "goldenrod:1,0,1",
  "green:1,40,0",
  "grey:1,40,0",
  "honeydew:1,0,1",
  "hot:1,0,1",
  "indian:1,0,1",
  "ivory:1,20,0",
  "khaki:1,20,0"]

/-- Units of measure. -/
def units : String := unlines [
  "-- units",
  "Unknown:5",
  "Each:20",
  "Dozen:10",
  "Case:10",
  "Pallet:5",
  "Gross:5",
  "Carton:5",
  "Box:10",
  "Bunch:5",
  "Bundle:5",
  "Oz:5",
  "Lb:5",
  "Ton:1",
  "Ounce:5",
  "Pound:5",
  "Tsp:1",
  "Tbl:1",
  "Cup:2",
  "Dram:1",
  "Gram:4",
  "N/A:1"]

/-- Item sizes. -/
def sizes : String := unlines [
  "-- sizes",
  "-- weights: 1 (all sizes), 2 (sized categories only)",
  "petite:15,20",
  "small:15,20",
  "medium:20,25",
  "large:20,25",
  "extra large:10,10",
  "economy:10,0",
  "N/A:10,0"]

/-- Carriers. -/
def shipModeCarrier : String := unlines [
  "-- ship_mode_carrier",
  "UPS:1",
  "FEDEX:1",
  "AIRBORNE:1",
  "USPS:1",
  "DHL:1",
  "TBS:1",
  "ZHOU:1",
  "ZOUROS:1",
  "MSC:1",
  "LATVIAN:1",
  "ALLIANCE:1",
  "ORIENTAL:1",
  "BARIAN:1",
  "BOXBUNDLES:1",
  "GREAT EASTERN:1",
  "DIAMOND:1",
  "RUPEKSA:1",
  "GERMA:1",
  "HARMSTORF:1",
  "PRIVATECARRIER:1"]

/-- Reasons for a return. -/
def returnReasons : String := unlines [
  "-- return_reasons",
  "-- weights: 1 (store), 2 (catalog), 3 (web), 4 (unused), 5 (unused), 6 (unused)",
  "Package was damaged:4,3,3,1,1,1",
  "Stopped working:4,3,3,1,1,1",
  "Did not get it on time:1,5,6,1,1,1",
  "Not the product that was ordred:2,4,5,1,1,1",
  "Parts missing:3,3,3,1,1,1",
  "Does not work with a product that I have:3,2,2,1,1,1",
  "Gift exchange:5,2,2,1,1,1",
  "Did not like the color:4,3,3,1,1,1",
  "Did not like the model:3,3,3,1,1,1",
  "Did not like the make:3,3,3,1,1,1",
  "Did not like the warranty:2,2,2,1,1,1",
  "No service location in my area:1,2,3,1,1,1",
  "Found a better price in a store:4,3,3,1,1,1",
  "Found a better extended warranty in a store:2,2,2,1,1,1",
  "Not working any more:3,3,3,1,1,1",
  "Did not fit\\, too small:4,4,4,1,1,1",
  "Wrong size:4,4,4,1,1,1",
  "Lost my job:1,1,1,1,1,1",
  "unauthoized purchase:1,1,1,1,1,1",
  "duplicate purchase:1,2,2,1,1,1",
  "its is a boy:1,1,1,1,1,1",
  "it is a girl:1,1,1,1,1,1",
  "reason 23:1,1,1,1,1,1",
  "reason 24:1,1,1,1,1,1"]

end QueryVariants.Distribution.Bundled
