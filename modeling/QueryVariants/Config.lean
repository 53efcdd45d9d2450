import QueryVariants.FileTree
import QueryVariants.Generator
import QueryVariants.Toml.Document

/-!
# The configuration of a project

A configuration gives defaults: directories of distributions and templates, a seed, a selection of
queries, and row counts. Relative directories are meant relative to the configuration file.
-/

namespace QueryVariants

open Toml (Value Entries)

structure Config where
  distributions : Option String
  templates : Option String
  seed? : Option Nat
  queries? : Option (List Nat)
  /-- Row counts by relation, each relation once. -/
  rowCounts : List (String × Nat)
  /-- The directory of the configuration file. -/
  dir? : Option String
  deriving DecidableEq, Repr

namespace Config

/-- The configuration without a file. -/
def default : Config :=
  ⟨none, none, none, none, [], none⟩

/-- The name of a configuration file. -/
def fileName : String := "dsqgen.toml"

/-- The seed that is used when nobody gives one. -/
def defaultSeed : Nat := 19620718

/-- A value that may be missing but not be of another kind: the outer option is none for a value of a
wrong kind. -/
def optional {α : Type} (read : Value → Option α) : Option Value → Option (Option α)
  | none => some none
  | some value => (read value).map some

def readString : Value → Option String
  | .string text => some text
  | _ => none

def readNatural : Value → Option Nat
  | .integer n => if 0 ≤ n then some n.toNat else none
  | _ => none

def readNaturals : Value → Option (List Nat)
  | .array items | .tables items => items.mapM readNatural
  | _ => none

/-- The values of a section with the given keys. A section is a table with these keys, or an array of
their values in order; a section that is a date has none of them. -/
def sectionFields (keys : List String) : Option Value → Option (List (Option Value))
  | none | some .datetime => some (keys.map fun _ => none)
  | some (.table _ entries) => some (keys.map fun key => entries.lookup key)
  | some (.array items) | some (.tables items) =>
    some ((List.range keys.length).map fun place => items[place]?)
  | some _ => none

def readRowCounts : Option Value → Option (List (String × Nat))
  | none => some []
  | some (.table _ entries) =>
    entries.mapM fun (name, value) => (readNatural value).map fun count => (name, count)
  | some _ => none

/-- The configuration that a file gives. Keys without a meaning are ignored. -/
def ofEntries? (entries : Entries) : Option Config := do
  let resources ← sectionFields ["distributions", "templates"] (entries.lookup "resources")
  let generate ← sectionFields ["seed", "queries"] (entries.lookup "generate")
  let rowCounts ← readRowCounts (entries.lookup "row_counts")
  match resources, generate with
  | [distributions, templates], [seed, queries] =>
    return ⟨← optional readString distributions, ← optional readString templates,
      ← optional readNatural seed, ← optional readNaturals queries, rowCounts, none⟩
  | _, _ => none

/-- The queries of the configuration must exist, and its relations must have names. -/
def validate (config : Config) : Except Error Unit := do
  match (config.queries?.getD []).find? fun id => (validateQueryId id).toOption.isNone with
  | some id => .error (.configQueryOutOfRange id)
  | none =>
    if config.rowCounts.any fun (name, _) => (Text.trim name.toList).isEmpty then
      .error .configEmptyRelation

/-- Reads the configuration file of a directory, if there is one. -/
def read (tree : FileTree) (dir : String) : Except Error (Option Config) := do
  let path := Path.join dir fileName
  if !tree.holds path then return none
  else
    match tree.readText path with
    | .error cause => .error (.configUnreadable path cause)
    | .ok text =>
      match (Toml.parse? text).bind ofEntries? with
      | none => .error (.configMalformed path)
      | some config =>
        let config := { config with dir? := some (tree.canonical dir) }
        config.validate
        return some config

def seed (config : Config) : Nat :=
  config.seed?.getD defaultSeed

/-- A path of the configuration as seen from its directory. -/
def resolvePath (config : Config) (path : String) : String :=
  match config.dir? with
  | some dir => Path.join dir path
  | none => path

def distributionsDir? (config : Config) : Option String :=
  config.distributions.map config.resolvePath

def templatesDir? (config : Config) : Option String :=
  config.templates.map config.resolvePath

/-- The ids that are not among `seen`, each at its first occurrence. -/
def distinctIds (seen : List Nat) : List Nat → Except Error (List Nat)
  | [] => .ok []
  | raw :: rest => do
    let id ← validateQueryId raw
    if id ∈ seen then distinctIds seen rest
    else
      let ids ← distinctIds (id :: seen) rest
      return id :: ids

/-- The configured queries in order, without repeats. -/
def queryIds (config : Config) : Except Error (List Nat) :=
  distinctIds [] (config.queries?.getD [])

end Config

namespace Generator

/-- The generator of a configuration: its directories stand in front of the bundled files. -/
def ofConfig (tree : FileTree) (config : Config) : Except Error Generator := do
  let registry ← match config.distributionsDir? with
    | some dir => Registry.withOverrides tree dir
    | none => Registry.bundled
  let rowCounts := RowCounts.scaleOne.withOverrides config.rowCounts
  match config.templatesDir? with
  | some dir =>
    let source ← TemplateSource.ofDirectory tree dir
    ofSource tree source.overBundled registry rowCounts
  | none => ofSource tree .bundled registry rowCounts

end Generator

end QueryVariants
