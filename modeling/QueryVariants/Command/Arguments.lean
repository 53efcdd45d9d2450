import QueryVariants.Command.EnvFile
import QueryVariants.Output.Piece
import QueryVariants.Text.Numeral

/-!
# The command line

A command line names one of three commands and gives its options. Options that are not given are taken
from the environment where a variable belongs to them. A command line that is not understood is refused
as a whole.
-/

namespace QueryVariants.Command

open Text

structure GenerateOptions where
  /-- The queries to generate; all of them if empty. -/
  queries : List Nat
  seed : Option Nat
  templates : Option String
  distributions : Option String
  output : Option String
  format : Option Output.Format
  deriving DecidableEq, Repr

/-- How a distribution is shown. -/
inductive TableFormat where
  | table
  | json
  deriving DecidableEq, Repr

inductive Request where
  | generate (options : GenerateOptions)
  /-- Reads a macro and shows its tree. -/
  | parse (source : String) (distributions : Option String)
  /-- Shows a distribution with its weights. -/
  | dist (name : String) (distributions : Option String) (format : TableFormat)
  deriving DecidableEq, Repr

/-- Why no command is run. -/
inductive Refusal where
  | usage
  | help
  | version
  deriving DecidableEq, Repr

/-- An option as it can be written. -/
structure OptionShape where
  long : String
  short : Option Char
  takesValue : Bool

/-- The options of a command and its arguments so far. -/
structure Draft where
  /-- Options with their values, the last one first. -/
  options : List (String × String)
  positionals : List String
  deriving DecidableEq, Repr

namespace Draft

def empty : Draft := ⟨[], []⟩

/-- The values of an option in the order in which they were given. -/
def values (draft : Draft) (long : String) : List String :=
  (draft.options.filter (·.1 = long)).reverse.map Prod.snd

end Draft

/-- What a command accepts. -/
structure Grammar where
  options : List OptionShape
  /-- How many arguments it takes besides its options. -/
  arguments : Nat
  /-- Whether a value is one that the option takes. -/
  accepts : String → String → Bool
  /-- The options that may be given more than once. -/
  repeatable : List String

namespace Grammar

def find? (grammar : Grammar) (long : String) : Option OptionShape :=
  grammar.options.find? (·.long = long)

def findShort? (grammar : Grammar) (short : Char) : Option OptionShape :=
  grammar.options.find? (·.short = some short)

/-- Takes an option with its value. -/
def take (grammar : Grammar) (draft : Draft) (long value : String) : Except Refusal Draft :=
  if long = "help" then .error .help
  else if long = "version" then .error .version
  else if long ∉ grammar.repeatable ∧ !(draft.values long).isEmpty then .error .usage
  else if grammar.accepts long value then
    .ok { draft with options := (long, value) :: draft.options }
  else .error .usage

def takeArgument (grammar : Grammar) (draft : Draft) (argument : String) :
    Except Refusal Draft :=
  if draft.positionals.length < grammar.arguments then
    .ok { draft with positionals := draft.positionals ++ [argument] }
  else .error .usage

/-- Takes a cluster of short options. The last of them may want the next argument as its value; then its
name is returned. -/
def takeShort (grammar : Grammar) (draft : Draft) :
    List Char → Except Refusal (Draft × Option String)
  | [] => .ok (draft, none)
  | c :: rest =>
    match grammar.findShort? c with
    | none => .error .usage
    | some shape =>
      if shape.takesValue then
        match rest with
        | [] => .ok (draft, some shape.long)
        | '=' :: value => do
          return (← grammar.take draft shape.long (String.ofList value), none)
        | value => do return (← grammar.take draft shape.long (String.ofList value), none)
      else do
        let draft ← grammar.take draft shape.long ""
        grammar.takeShort draft rest

/-- Takes an option in its long form, whose value may follow an equals sign. -/
def takeLong (grammar : Grammar) (draft : Draft) (body : List Char) :
    Except Refusal (Draft × Option String) :=
  let name := body.takeWhile (· ≠ '=')
  match grammar.find? (String.ofList name), body.drop name.length with
  | none, _ => .error .usage
  | some shape, [] =>
    if shape.takesValue then .ok (draft, some shape.long)
    else do return (← grammar.take draft shape.long "", none)
  | some shape, _ :: value =>
    if shape.takesValue then do
      return (← grammar.take draft shape.long (String.ofList value), none)
    else .error .usage

/-- Whether an argument looks like an option. -/
def isOption (argument : String) : Bool :=
  argument.toList.head? == some '-' && argument != "-"

/-- Takes the arguments of a command. After `--` no argument is an option. -/
def takeAll (grammar : Grammar) (draft : Draft) (pending : Option String) :
    List String → Except Refusal Draft
  | [] => if pending.isNone then .ok draft else .error .usage
  | argument :: rest =>
    match pending with
    | some long =>
      if isOption argument then .error .usage
      else do grammar.takeAll (← grammar.take draft long argument) none rest
    | none =>
      if argument = "--" then rest.foldlM grammar.takeArgument draft
      else if isOption argument then do
        let (draft, pending) ← match argument.toList with
          | '-' :: '-' :: body => grammar.takeLong draft body
          | s => grammar.takeShort draft (s.drop 1)
        grammar.takeAll draft pending rest
      else do grammar.takeAll (← grammar.takeArgument draft argument) none rest

end Grammar

/-- The options that every command has. -/
def commonOptions : List OptionShape :=
  [⟨"verbose", some 'v', false⟩, ⟨"help", some 'h', false⟩]

def distributionsOption : OptionShape := ⟨"distributions", none, true⟩

def isUnsigned (s : String) : Bool :=
  (readUnsigned? s.toList).isSome

/-- The parts of a value between its commas. -/
def splitCommas (s : String) : List String :=
  (s.toList.splitOn ',').map String.ofList

def generateGrammar : Grammar where
  options := [⟨"query", some 'q', true⟩, ⟨"seed", none, true⟩, ⟨"templates", none, true⟩,
    distributionsOption, ⟨"output", some 'o', true⟩, ⟨"format", none, true⟩] ++ commonOptions
  arguments := 0
  accepts long value :=
    match long with
    | "query" => (splitCommas value).all isUnsigned
    | "seed" => isUnsigned value
    | "templates" | "distributions" | "output" => !value.isEmpty
    | "format" => value == "sql" || value == "json"
    | _ => true
  repeatable := ["query"]

def parseGrammar : Grammar where
  options := distributionsOption :: commonOptions
  arguments := 1
  accepts long value := long != "distributions" || !value.isEmpty
  repeatable := []

def distGrammar : Grammar where
  options := [distributionsOption, ⟨"format", none, true⟩] ++ commonOptions
  arguments := 1
  accepts long value :=
    match long with
    | "distributions" => !value.isEmpty
    | "format" => value == "table" || value == "json"
    | _ => true
  repeatable := []

/-- The value of an option, or else of the variable that belongs to it. -/
def directoryOption (environment : Environment) (draft : Draft) (long name : String) :
    Except Refusal (Option String) :=
  match draft.values long, environment.lookup name with
  | value :: _, _ => .ok (some value)
  | [], none => .ok none
  | [], some value => if value.isEmpty then .error .usage else .ok (some value)

def templatesVariable : String := "DSQGEN_TEMPLATES"

def distributionsVariable : String := "DSQGEN_DISTRIBUTIONS"

def readGenerate (environment : Environment) (arguments : List String) :
    Except Refusal Request := do
  let draft ← generateGrammar.takeAll .empty none arguments
  let templates ← directoryOption environment draft "templates" templatesVariable
  let distributions ← directoryOption environment draft "distributions" distributionsVariable
  return .generate {
    queries := (draft.values "query").flatMap fun value =>
      (splitCommas value).filterMap fun part => readUnsigned? part.toList
    seed := (draft.values "seed").head?.bind fun value => readUnsigned? value.toList
    templates, distributions
    output := (draft.values "output").head?
    format := (draft.values "format").head?.bind Output.Format.ofName? }

def readParse (environment : Environment) (arguments : List String) :
    Except Refusal Request := do
  let draft ← parseGrammar.takeAll .empty none arguments
  let distributions ← directoryOption environment draft "distributions" distributionsVariable
  match draft.positionals with
  | [source] => return .parse source distributions
  | _ => .error .usage

def readDist (environment : Environment) (arguments : List String) :
    Except Refusal Request := do
  let draft ← distGrammar.takeAll .empty none arguments
  let distributions ← directoryOption environment draft "distributions" distributionsVariable
  match draft.positionals with
  | [name] =>
    let format := if draft.values "format" = ["json"] then TableFormat.json else .table
    return .dist name distributions format
  | _ => .error .usage

/-- The options before the name of the command. -/
def topGrammar : Grammar where
  options := commonOptions ++ [⟨"version", some 'V', false⟩]
  arguments := 0
  accepts _ _ := true
  repeatable := []

/-- What a request for help leads to. It names one command or none. -/
def readHelp (arguments : List String) : Refusal :=
  match arguments with
  | [] | ["generate"] | ["parse"] | ["dist"] | ["help"] => .help
  | _ => .usage

/-- Reads a command line: options that every command has, the name of a command, its own options. After
`--` nothing is the name of a command. -/
def readRequest (environment : Environment) (arguments : List String) :
    Except Refusal Request := do
  let leading := arguments.takeWhile Grammar.isOption
  let _ ← topGrammar.takeAll .empty none leading
  if "--" ∈ leading then .error .usage
  match arguments.drop leading.length with
  | "generate" :: rest => readGenerate environment rest
  | "parse" :: rest => readParse environment rest
  | "dist" :: rest => readDist environment rest
  | "help" :: rest => .error (readHelp rest)
  | _ => .error .usage

end QueryVariants.Command
