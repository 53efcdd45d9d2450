/-!
# Values of a configuration file

A configuration file is TOML. Tables remember how they came about, because that decides whether a later
line may still add to them.
-/

namespace QueryVariants.Toml

/-- How a table came about. -/
inductive Origin where
  /-- Written between braces; nothing is added to it later. -/
  | inlined
  /-- Named by a header of its own; the table of the whole file counts as such. -/
  | header
  /-- Named only as a part of a longer header. -/
  | implied
  /-- Named only as a part of a dotted key. -/
  | dotted
  deriving DecidableEq, Repr

inductive Value where
  | string (text : String)
  | integer (n : Int)
  | float
  | boolean (b : Bool)
  | datetime
  | array (items : List Value)
  /-- A list of tables, each under a header in double brackets. -/
  | tables (items : List Value)
  | table (origin : Origin) (entries : List (String × Value))

abbrev Entries := List (String × Value)

/-- Gives a key a new value in its place. -/
def replaceEntry (key : String) (value : Value) : Entries → Entries
  | [] => []
  | entry :: rest =>
    if entry.1 = key then (key, value) :: rest else entry :: replaceEntry key value rest

/-- Changes the table at the end of a path. Tables that are missing on the way are made; `dotted` tells
whether the path is part of a dotted key, which may not lead into a table that has a header. -/
def changeAt (dotted : Bool) (change : Origin → Entries → Option Entries) :
    List String → Origin → Entries → Option Entries
  | [], origin, entries => change origin entries
  | key :: path, _, entries =>
    match entries.lookup key with
    | none => do
      let origin := if dotted then Origin.dotted else .implied
      let inner ← changeAt dotted change path origin []
      return entries ++ [(key, .table origin inner)]
    | some (.table origin inner) =>
      if origin = .inlined ∨ (dotted ∧ origin = .header) then none
      else do
        let inner ← changeAt dotted change path origin inner
        return replaceEntry key (.table origin inner) entries
    | some (.tables items) =>
      match items.getLast? with
      | some (.table origin inner) => do
        let inner ← changeAt dotted change path origin inner
        return replaceEntry key (.tables (items.dropLast ++ [.table origin inner])) entries
      | _ => none
    | some _ => none

/-- Adds a key with its value below a path of dotted keys. No key is given twice, and dotted keys do not
add to a table that came about in another way. -/
def addPair (path : List String) (key : String) (value : Value) (origin : Origin)
    (entries : Entries) : Option Entries :=
  let add (origin : Origin) (entries : Entries) : Option Entries :=
    if (origin == .dotted) = path.isEmpty then none
    else if (entries.lookup key).isSome then none
    else some (entries ++ [(key, value)])
  changeAt true add path origin entries

/-- Opens the table of a header. -/
def openTable (path : List String) (key : String) (entries : Entries) : Option Entries :=
  let add (_ : Origin) (entries : Entries) : Option Entries :=
    match entries.lookup key with
    | none => some (entries ++ [(key, .table .header [])])
    | some (.table .implied inner) => some (replaceEntry key (.table .header inner) entries)
    | some _ => none
  changeAt false add path .header entries

/-- Adds an empty table to the list of tables of a header in double brackets. -/
def openListTable (path : List String) (key : String) (entries : Entries) : Option Entries :=
  let fresh := Value.table .header []
  let add (_ : Origin) (entries : Entries) : Option Entries :=
    match entries.lookup key with
    | none => some (entries ++ [(key, .tables [fresh])])
    | some (.tables items) => some (replaceEntry key (.tables (items ++ [fresh])) entries)
    | some _ => none
  changeAt false add path .header entries

end QueryVariants.Toml
