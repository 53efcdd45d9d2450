import QueryVariants.Command.Arguments
import QueryVariants.Command.Grid
import QueryVariants.Command.Session
import QueryVariants.Config
import QueryVariants.Macro.Outline
import QueryVariants.Macro.Printer
import QueryVariants.Output.Sink
import QueryVariants.Text.Lines

/-!
# Running a command

A run is a function of the arguments, the environment and the files. Each command is a session in the order
of its steps, so what it has printed or written before a step that fails stays.
-/

namespace QueryVariants.Command

/-- The tables of a command that is given a directory of its own. -/
def loadRegistry (tree : FileTree) (distributions : Option String) : Except Error Registry :=
  match distributions with
  | some dir => Registry.withOverrides tree dir
  | none => Registry.bundled

/-- A path of the command line as a full path. -/
def absolute (tree : FileTree) (path : String) : String :=
  Path.join ("/" ++ "/".intercalate tree.current) path

/-- The output format: the one that is asked for, or else the one that the name of the output file
suggests. -/
def outputFormat (options : GenerateOptions) : Output.Format :=
  match options.format with
  | some format => format
  | none =>
    ((options.output.bind Path.extension?).bind Output.Format.ofName?).getD .sql

/-- The configuration of the working directory with the directories of the command line in front. -/
def configured (tree : FileTree) (options : GenerateOptions) : Except Error Config := do
  let config := (← Config.read tree ".").getD .default
  return { config with
    templates := options.templates.map (absolute tree) <|> config.templates
    distributions := options.distributions.map (absolute tree) <|> config.distributions }

/-- The queries to generate: those of the command line, or of the configuration, or all there are. -/
def selectIds (options : GenerateOptions) (config : Config) (generator : Generator) :
    Except Error (List Nat) :=
  if !options.queries.isEmpty then options.queries.mapM validateQueryId
  else do
    let ids ← config.queryIds
    return if ids.isEmpty then generator.catalog.ids else ids

/-- The generator, the seed and the queries of a run. -/
def prepare (tree : FileTree) (options : GenerateOptions) :
    Except Error (Generator × UInt64 × List Nat) := do
  let config ← configured tree options
  let generator ← Generator.ofConfig tree config
  let ids ← selectIds options config generator
  return (generator, UInt64.ofNat (options.seed.getD config.seed), ids)

/-- Writes a batch and puts out the bytes. Once the file is made this cannot fail, for the files are a picture in
which there is always room: a full device, or standard output that is closed, is met only when the effects are
carried out, and the bytes before it have been written then. -/
def writeBatch (put : List UInt8 → Effect) (format : Output.Format) (queries : List GeneratedQuery) :
    Session Unit := do
  let (result, sink) := format.write (.ofLimit none) queries
  Session.perform (put sink.written)
  Session.ofExcept result

/-- Makes the file of a path, in the place of an old one, and gives its place. -/
def createFile (tree : FileTree) (path : String) : Session (List String) :=
  match tree.target path with
  | .error cause => Session.fail s!"Failed to create {path}: {cause.message}"
  | .ok place => do
    Session.perform (.create path place)
    return place

def runGenerate (tree : FileTree) (options : GenerateOptions) : Session Unit := do
  let (generator, seed, ids) ← Session.ofExcept (prepare tree options)
  if ids.isEmpty then
    Session.fail
      "No query templates loaded. Pass --templates with a directory of query<N>.tpl files."
  else do
    let queries ← Session.ofExcept (generator.generate ids seed).2
    match options.output with
    | none => writeBatch .print (outputFormat options) queries
    | some path => do
      let place ← createFile tree path
      writeBatch (.append path place) (outputFormat options) queries
      Session.perform (.report s!"Wrote {queries.length} queries (seed {seed}) to {path}\n")

/-- The written form of a macro and its tree. -/
def runParse (tree : FileTree) (source : String) (distributions : Option String) : Session Unit := do
  let registry ← Session.ofExcept (loadRegistry tree distributions)
  let e ← Session.ofExcept (Macro.Expr.parse source registry)
  Session.printLine e.render
  Session.printLine ""
  Session.printLine (e.outline.indented "")

/-- The cells and the weights of a row. -/
def tableRow (table : Table) (row : Nat) : Except Error (List String × List Nat) := do
  let values ← (List.range table.fields.length).mapM fun field => table.cell field row
  let weights ← (List.range table.weights.length).mapM fun column => table.weightAt column row
  return (values, weights)

/-- The rows of a table with their values and weights. -/
def tableGrid (table : Table) : Except Error Grid := do
  let rows ← (List.range table.size).mapM fun row => do
    let (values, weights) ← tableRow table row
    return toString (row + 1) :: values ++ weights.map toString
  return ⟨"#" :: table.fields ++ table.weights.map ("w:" ++ ·), rows⟩

def tableJson (table : Table) : Except Error JsonValue := do
  let rows ← (List.range table.size).mapM fun row => do
    let (values, weights) ← tableRow table row
    return .object [
      ("values", .sortedObject (table.fields.zip (values.map .string))),
      ("weights", .sortedObject (table.weights.zip (weights.map .number)))]
  return .object [("name", .string table.name), ("rows", .array rows)]

/-- The table of a name; the names that are known are reported with one that is not. -/
def findTable (registry : Registry) (name : String) : Session Table :=
  match registry.get name with
  | .error e =>
    Session.fail (e.message ++ "\n  Known distributions: " ++ ", ".intercalate registry.names)
  | .ok table => return table

def printTable (table : Table) : TableFormat → Session Unit
  | .json => do
    let json ← Session.ofExcept (tableJson table)
    Session.printLine (json.pretty "")
  | .table => do
    Session.printLine s!"Distribution: {table.name} ({table.size} rows)"
    Session.printLine ""
    let grid ← Session.ofExcept (tableGrid table)
    Session.printLine ("\n".intercalate grid.lines)

def runDist (tree : FileTree) (name : String) (distributions : Option String)
    (format : TableFormat) : Session Unit := do
  let registry ← Session.ofExcept (loadRegistry tree distributions)
  let table ← findTable registry name
  printTable table format

def usage : String :=
  Text.unlines [
    "Usage: dsqgen [OPTIONS] <COMMAND>",
    "",
    "Commands:",
    "  generate  Expand query templates into SQL",
    "  parse     Parse a macro expression and print its substitution tree",
    "  dist      Print a distribution with its raw weights"]

def refuse : Refusal → Outcome
  | .usage => ⟨2, [.report usage]⟩
  | .help => ⟨0, [.print usage.toUTF8.toList]⟩
  | .version => ⟨0, [.print "dsqgen 0.3.0\n".toUTF8.toList]⟩

/-- The name of the file that sets variables of the environment. -/
def envFileName : String := ".env"

/-- The environment with the variables of the environment file, which stands in the working directory or in the
nearest directory above it that has one. -/
def fullEnvironment (tree : FileTree) (environment : Environment) : Environment :=
  match tree.nearestFile? envFileName with
  | some content => withEnvFile environment (Text.validText content)
  | none => environment

def execute (tree : FileTree) : Request → Session Unit
  | .generate options => runGenerate tree options
  | .parse source distributions => runParse tree source distributions
  | .dist name distributions format => runDist tree name distributions format

/-- Runs a command line. -/
def run (tree : FileTree) (environment : Environment) (arguments : List String) : Outcome :=
  match readRequest (fullEnvironment tree environment) arguments with
  | .error refusal => refuse refusal
  | .ok request => (execute tree request).outcome

/-- The paths that a command line reads or writes, besides the configuration and the environment file that every
run reads. Of a directory all files are meant. -/
def paths (tree : FileTree) (environment : Environment) (arguments : List String) : List String :=
  match readRequest (fullEnvironment tree environment) arguments with
  | .error _ => []
  | .ok (.generate options) =>
    match configured tree options with
    | .error _ => []
    | .ok config =>
      config.templatesDir?.toList ++ config.distributionsDir?.toList ++ options.output.toList
  | .ok (.parse _ distributions) => distributions.toList
  | .ok (.dist _ distributions _) => distributions.toList

end QueryVariants.Command
