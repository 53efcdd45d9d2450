import QueryVariants.Generator

/-!
# A small sample

Five short templates that between them use every kind of macro, and a table of two rows for them.
-/

namespace QueryVariants.Sample

open Text (unlines)

def templates : TemplateSource :=
  .memory [
    (1, unlines [
      "define NAME = \"X\";",
      "select [NAME] from t where c = '[NAME]';"]),
    (2, unlines [
      "define YEAR = 2001;",
      "define SDATE = date([YEAR]+\"-08-01\",[YEAR]+\"-08-30\",sales);",
      "select d_date from date_dim where d_date = '[SDATE]';"]),
    (3, unlines [
      "define L = ulist(random(1,5,uniform),4);",
      "select [L.1], [L.2], [L.3], [L.4];"]),
    (4, unlines [
      "define TICKETS = rowcount(\"store_sales\")/5;",
      "define _LIMIT = 10;",
      "[_LIMITA] select [_LIMITB] count(*) from store_sales " ++
        "where ss_ticket_number <= [TICKETS] [_LIMITC];"]),
    (5, unlines [
      "define TIER = dist(tiers, 1, common);",
      "define GEN = text(\x7b\"M\",1\x7d,\x7b\"F\",1\x7d);",
      "select '[TIER]', '[GEN]';"])]

/-- Two rows with the weights 10 and 5 in the first column, 0 and 1 in the second. -/
def tiers : Except Error Table :=
  Table.parse "tiers" (unlines ["-- tiers", "gold,1:10,0", "silver,2:5,1"]) ["name", "rank"]
    ["common", "rare"]

/-- The bundled tables and the sample table. -/
def registry : Except Error Registry := do
  return (← Registry.bundled).insert (← tiers)

def generator (tree : FileTree) : Except Error Generator := do
  Generator.ofSource tree templates (← registry) .scaleOne

end QueryVariants.Sample
