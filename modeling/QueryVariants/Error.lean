/-!
# What can go wrong

One type for every failure of the library. A constructor names the cause and holds what the reader of
the message needs to find it; the wording is in `message` alone.
-/

namespace QueryVariants

/-- Why a file could not be read, or an output could not take more. -/
inductive FileError where
  | notFound
  | notDirectory
  | isDirectory
  | nameTooLong
  /-- A path that holds the character that ends texts for the system. -/
  | nulInPath
  | invalidUtf8
  | deviceFull
  deriving DecidableEq, Repr

namespace FileError

def message : FileError → String
  | notFound => "No such file or directory (os error 2)"
  | notDirectory => "Not a directory (os error 20)"
  | isDirectory => "Is a directory (os error 21)"
  | nameTooLong => "File name too long (os error 36)"
  | nulInPath => "file name contained an unexpected NUL byte"
  | invalidUtf8 => "stream did not contain valid UTF-8"
  | deviceFull => "device full"

end FileError

inductive Error where
  /-- A distribution file that cannot be read. -/
  | distributionResource (path : String) (cause : FileError)
  /-- A record that does not fit its table, with its line number. -/
  | distributionFormat (distribution : String) (line : Nat) (problem : String)
  | emptyDistribution (distribution : String)
  | unknownDistribution (name : String)
  | unknownWeight (distribution weight : String) (known : List String)
  | fieldOutOfRange (distribution : String) (field fields : Nat)
  | rowOutOfRange (distribution : String) (row : Int) (rows : Nat)
  /-- A weight column whose weights are all zero. -/
  | emptyWeights (distribution : String) (column : Nat)
  /-- A drawn weight above the total of its column. -/
  | weightOverflow (distribution : String) (column weight : Nat)
  /-- Macro text in no known form, and the whole source it stands in. -/
  | parse (text source : String)
  | unknownSubstitution (name : String)
  | cyclicReference (name : String)
  | notAList (name : String)
  /-- A value kept as a single text where a list is asked for. -/
  | cacheShape (name : String)
  | listIndexOutOfRange (name : String) (index length : Nat)
  | unknownRelation (relation : String)
  | invalidNumber (value place : String)
  | invalidDate (value : String)
  | emptyRange (start stop : String)
  | templateSyntax (query line : Nat) (problem : String)
  | templateSource (query : Nat) (path : String) (cause : FileError)
  | unknownQuery (id : Nat)
  | queryIdOutOfRange (id : Nat)
  | missingDistributionDirectory (path : String)
  | missingTemplateDirectory (path : String)
  | configUnreadable (path : String) (cause : FileError)
  /-- A configuration file that is not TOML, or that holds values of the wrong type. -/
  | configMalformed (path : String)
  | configQueryOutOfRange (id : Nat)
  | configEmptyRelation
  /-- An output that failed while `action` was going on. -/
  | output (action : String) (cause : FileError)
  deriving DecidableEq, Repr

namespace Error

def message : Error → String
  | distributionResource path cause =>
    s!"Failed to read distribution resource '{path}': {cause.message}"
  | distributionFormat distribution line problem =>
    s!"Malformed distribution '{distribution}' at line {line}: {problem}"
  | emptyDistribution distribution => s!"Distribution '{distribution}' has no rows"
  | unknownDistribution name => s!"Unknown distribution '{name}'"
  | unknownWeight distribution weight known =>
    s!"Unknown weight '{weight}' for distribution '{distribution}'\n  Known weights: " ++
      ", ".intercalate known
  | fieldOutOfRange distribution field fields =>
    s!"Field {field} is out of range for distribution '{distribution}' ({fields} value fields)"
  | rowOutOfRange distribution row rows =>
    s!"Row {row} is out of range for distribution '{distribution}' ({rows} rows)"
  | emptyWeights distribution column =>
    s!"Weight column {column} of distribution '{distribution}' has a total weight of 0 and " ++
      "cannot be drawn from"
  | weightOverflow distribution column weight =>
    s!"Random weight {weight} exceeds the maximum cumulative weight of column {column} in " ++
      s!"distribution '{distribution}'"
  | parse text source => s!"Unknown substitution: {text} (original={source})"
  | unknownSubstitution name =>
    s!"Unknown substitution '{name}'\n  Add a `define {name} = ...;` line to the template"
  | cyclicReference name => s!"Substitution '{name}' refers to itself while being evaluated"
  | notAList name =>
    s!"Substitution '{name}' is not a list; only ulist(...) defines can be indexed"
  | cacheShape name => s!"Cached value for '{name}' is a scalar but was read as a list"
  | listIndexOutOfRange name index length =>
    s!"Index {index} is out of range for list '{name}' ({length} items)"
  | unknownRelation relation => s!"Unknown relation '{relation}' in rowcount()"
  | invalidNumber value place => s!"Expected an integer for {place}, got '{value}'"
  | invalidDate value => s!"Bad date '{value}': expected YYYY-MM-DD"
  | emptyRange start stop => s!"Empty range: end {stop} is before start {start}"
  | templateSyntax query line problem =>
    s!"Template syntax error in query {query} at line {line}: {problem}"
  | templateSource query path cause =>
    s!"Failed to read template for query {query} from {path}: {cause.message}"
  | unknownQuery id =>
    s!"Query {id} has no template loaded\n  Point [resources] templates in dsqgen.toml " ++
      s!"(or --templates) at a directory containing query{id}.tpl"
  | queryIdOutOfRange id => s!"Query id {id} is out of range; valid ids are 1 through 99"
  | missingDistributionDirectory path =>
    s!"Configuration error: Distribution directory {path} does not exist"
  | missingTemplateDirectory path =>
    s!"Configuration error: Template directory {path} does not exist"
  | configUnreadable path cause =>
    s!"Configuration error: Failed to read {path}: {cause.message}"
  | configMalformed path => s!"Configuration error: Failed to parse {path}"
  | configQueryOutOfRange id =>
    s!"Configuration error: generate.queries contains {id}; query ids run from 1 to 99"
  | configEmptyRelation =>
    "Configuration error: row_counts contains an empty relation name"
  | output action cause => s!"Output error: {action}: {cause.message}"

/-- The failure of a file or an output behind an error. A configuration keeps no such cause apart from its
message. -/
def cause? : Error → Option FileError
  | distributionResource _ cause => some cause
  | templateSource _ _ cause => some cause
  | output _ cause => some cause
  | _ => none

/-- The message followed by the cause, if there is one. -/
def report (e : Error) : String :=
  match e.cause? with
  | some cause => s!"{e.message}: {cause.message}"
  | none => e.message

end Error

end QueryVariants
