import QueryVariants.Text.Alphanumeric
import QueryVariants.Text.Blank

/-!
# Environment files

An environment file gives values to variables, one `NAME=VALUE` to a line, with an optional `export` in
front. Values may be quoted, may run over several lines inside quotes, and may refer to other variables
with `$`. Reading stops at the first line that is malformed; the lines before it count.
-/

namespace QueryVariants.Command

open Text

/-- Variables with their values; the first of a name counts. -/
abbrev Environment := List (String × String)

/-- How far the end of an entry has been found. -/
inductive EntryState where
  | complete
  | escape
  | strong
  | strongEscape
  | weak
  | weakEscape
  | blank
  deriving DecidableEq, Repr

namespace EntryState

def step (state : EntryState) (c : Char) : EntryState :=
  match state with
  | complete =>
    if isBlank c && c != '\n' && c != '\r' then blank else opened c
  | blank => opened c
  | escape => complete
  | weak => if c = '\\' then weakEscape else if c = '"' then complete else weak
  | weakEscape => weak
  | strong => if c = '\\' then strongEscape else if c = '\'' then complete else strong
  | strongEscape => strong
where
  /-- The state after a character outside quotes. -/
  opened (c : Char) : EntryState :=
    if c = '\\' then escape else if c = '"' then weak else if c = '\'' then strong else complete

end EntryState

/-- Scans a line: its text, up to a comment, and the state after it, none if there is a comment. -/
def scanLine (state : EntryState) : List Char → List Char × Option EntryState
  | [] => ([], some state)
  | c :: rest =>
    if state = .blank ∧ c = '#' then ([], none)
    else
      let (text, state) := scanLine (state.step c) rest
      (c :: text, state)

/-- The lines of a text with their endings. -/
def rawLines : List Char → List (List Char)
  | [] => []
  | '\n' :: rest => ['\n'] :: rawLines rest
  | c :: rest =>
    match rawLines rest with
    | [] => [[c]]
    | line :: lines => (c :: line) :: lines

/-- The entries of a file, each with the lines that belong to it. The last is none if it does not
end. -/
def entriesFrom (start : List Char) (state : EntryState) :
    List (List Char) → List (Option (List Char))
  | [] => if state = .complete then [] else [none]
  | line :: lines =>
    if (trimStart (start ++ line)).head? = some '#' then some [] :: entriesFrom [] .complete lines
    else
      let (text, state) := scanLine state line
      let entry := start ++ text
      match state with
      | none => some entry :: entriesFrom [] .complete lines
      | some .complete => some entry :: entriesFrom [] .complete lines
      | some state => entriesFrom entry state lines

/-- The value of a variable inside a value: the environment comes first, then the file. -/
def substitute (environment known : Environment) (name : List Char) : List Char :=
  let name := String.ofList name
  ((environment.lookup name).getD ((known.lookup name).getD "")).toList

/-- How a reference to a variable is being read. -/
inductive Reference where
  | outside
  /-- After `$`, with the name so far. -/
  | bare (name : List Char)
  /-- Inside braces, with the name so far. -/
  | braced (name : List Char)
  deriving DecidableEq, Repr

/-- How a value is being read. -/
structure ValueState where
  strong : Bool
  weak : Bool
  escaped : Bool
  /-- Nothing but blanks and a comment may follow. -/
  ended : Bool
  reference : Reference
  deriving DecidableEq, Repr

namespace ValueState

def start : ValueState := ⟨false, false, false, false, .outside⟩

end ValueState

/-- The value in a text. -/
def readValue? (environment known : Environment) (state : ValueState) :
    List Char → Option (List Char)
  | [] =>
    match state.reference with
    | .braced _ => none
    | .bare name =>
      if state.strong || state.weak then none else some (substitute environment known name)
    | .outside => if state.strong || state.weak then none else some []
  | c :: rest =>
    let go (state : ValueState) := readValue? environment known state rest
    let emit (text : List Char) (state : ValueState) := (go state).map (text ++ ·)
    if state.ended then
      if c = ' ' ∨ c = '\t' then go state else if c = '#' then some [] else none
    else if state.escaped then
      let state := { state with escaped := false }
      if c ∈ ['\\', '\'', '"', '$', ' '] then emit [c] state
      else if c = 'n' then emit ['\n'] state
      else none
    else if state.strong then
      if c = '\'' then go { state with strong := false } else emit [c] state
    else
      match state.reference with
      | .braced name =>
        if c = '\x7d' then
          emit (substitute environment known name) { state with reference := .outside }
        else go { state with reference := .braced (name ++ [c]) }
      | .bare name =>
        if isAlphanumeric c then go { state with reference := .bare (name ++ [c]) }
        else if c = '\x7b' ∧ name.isEmpty then go { state with reference := .braced [] }
        else if c = '$' then
          emit (substitute environment known name) { state with reference := .bare [] }
        else
          emit (substitute environment known name ++ [c]) { state with reference := .outside }
      | .outside =>
        if c = '$' then go { state with reference := .bare [] }
        else if c = '\\' then go { state with escaped := true }
        else if state.weak then
          if c = '"' then go { state with weak := false } else emit [c] state
        else if c = '\'' then go { state with strong := true }
        else if c = '"' then go { state with weak := true }
        else if c = ' ' ∨ c = '\t' then go { state with ended := true }
        else emit [c] state

/-- The name of a variable, and what follows. -/
def readName? (s : List Char) : Option (List Char × List Char) :=
  match s with
  | c :: _ =>
    if c.isAlpha || c == '_' then
      let name := s.takeWhile fun c => c.isAlphanum || c == '_' || c == '.'
      some (name, s.drop name.length)
    else none
  | [] => none

def readEqual? : List Char → Option (List Char)
  | '=' :: rest => some rest
  | _ => none

/-- The name and the text of the value in an entry. -/
def splitEntry? (s : List Char) : Option (List Char × List Char) := do
  let (name, s) ← readName? s
  let s := trimStart s
  if name = "export".toList then
    match readEqual? s with
    | some s => return (name, trimStart s)
    | none =>
      let (name, s) ← readName? s
      let s ← readEqual? (trimStart s)
      return (name, trimStart s)
  else
    let s ← readEqual? s
    return (name, trimStart s)

/-- Reads the entries in order; `known` holds the values of the file so far, the last one first. -/
def readEntries (environment known : Environment) :
    List (Option (List Char)) → Environment
  | [] | none :: _ => environment
  | some entry :: entries =>
    let s := trimStart (trimEnd entry)
    if s.isEmpty || s.head? == some '#' then readEntries environment known entries
    else
      let read := do
        let (name, text) ← splitEntry? s
        let value ←
          if text.isEmpty || text.head? == some '#' then some []
          else readValue? environment known .start text
        return (String.ofList name, String.ofList value)
      match read with
      | none => environment
      | some (name, value) =>
        let environment :=
          if (environment.lookup name).isSome then environment
          else environment ++ [(name, value)]
        readEntries environment ((name, value) :: known) entries

/-- The environment with the variables of a file that are not set already. -/
def withEnvFile (environment : Environment) (text : String) : Environment :=
  let s := match text.toList with
    | '\uFEFF' :: rest => rest
    | s => s
  readEntries environment [] (entriesFrom [] .complete (rawLines s))

/-- Every word of a file that may be the name of a variable: one that is set, one after `$`, or one in
braces. -/
def mentionedNames (text : String) : List String :=
  let words (isPart : Char → Bool) :=
    (text.toList.splitOnP fun c => !isPart c).filter (!·.isEmpty)
  (words (fun c => c.isAlphanum || c == '_' || c == '.') ++ words isAlphanumeric ++
    words fun c => c != '\x7b' && c != '\x7d').map String.ofList

end QueryVariants.Command
