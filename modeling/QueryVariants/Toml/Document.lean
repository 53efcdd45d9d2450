import QueryVariants.Toml.Quoted

/-!
# Reading a configuration file

A file is a sequence of lines: pairs of a key and a value, headers, comments and blank lines. Arrays may
run over several lines, tables between braces may not.
-/

namespace QueryVariants.Toml

/-- Drops blanks, line endings and comments. -/
def dropTrivia (s : List Char) : List Char :=
  match s with
  | [] => []
  | c :: rest =>
    if isSpace c then dropTrivia rest
    else if c = '#' then dropTrivia (rest.dropWhile isPlain)
    else
      match c, rest with
      | '\n', rest => dropTrivia rest
      | '\r', '\n' :: rest => dropTrivia rest
      | _, _ => s
termination_by s.length
decreasing_by
  all_goals
    have := (List.dropWhile_sublist (l := rest) isPlain).length_le
    simp only [List.length_cons] at *
    omega

/-- What follows the rest of a line that holds nothing more but blanks and a comment. -/
def lineEnd? (s : List Char) : Option (List Char) :=
  let s := match dropSpace s with
    | '#' :: rest => rest.dropWhile isPlain
    | s => s
  match s with
  | [] => some []
  | _ => newline? s

/-- The items of an array after its opening bracket, at most `most` of them. -/
def readItems? (readValue? : List Char → Option (Value × List Char)) :
    Nat → List Char → Option (List Value × List Char)
  | 0, _ => none
  | most + 1, s =>
    match dropTrivia s with
    | ']' :: rest => some ([], rest)
    | s => do
      let (item, s) ← readValue? s
      match dropTrivia s with
      | ']' :: rest => return ([item], rest)
      | ',' :: rest =>
        let (items, rest) ← readItems? readValue? most rest
        return (item :: items, rest)
      | _ => none

/-- A pair of a key and a value. -/
def readPair? (readValue? : List Char → Option (Value × List Char)) (s : List Char) :
    Option ((List String × String × Value) × List Char) := do
  let (path, key, s) ← readKey? s
  match s with
  | '=' :: rest =>
    let (value, rest) ← readValue? (dropSpace rest)
    return ((path, key, value), rest)
  | _ => none

/-- The pairs of a table between braces, at most `most` of them, added to its entries. -/
def readPairs? (readValue? : List Char → Option (Value × List Char)) :
    Nat → Entries → List Char → Option (Entries × List Char)
  | 0, _, _ => none
  | most + 1, entries, s => do
    let ((path, key, value), s) ← readPair? readValue? s
    let entries ← addPair path key value .inlined entries
    match dropSpace s with
    | '\x7d' :: rest => return (entries, rest)
    | ',' :: rest => readPairs? readValue? most entries rest
    | _ => none

/-- Reads a value in which arrays and tables are nested at most `depth` levels. -/
def readValue? (depth : Nat) (s : List Char) : Option (Value × List Char) :=
  match s with
  | '[' :: rest =>
    match depth with
    | 0 => none
    | depth + 1 =>
      (readItems? (readValue? depth) (rest.length + 1) rest).map fun (items, rest) =>
        (.array items, rest)
  | '\x7b' :: rest =>
    match depth with
    | 0 => none
    | depth + 1 =>
      match dropSpace rest with
      | '\x7d' :: rest => some (.table .inlined [], rest)
      | rest =>
        (readPairs? (readValue? depth) (rest.length + 1) [] rest).map fun (entries, rest) =>
          (.table .inlined entries, rest)
  | '"' :: _ | '\'' :: _ =>
    (readQuoted? s).map fun (text, rest) => (.string (String.ofList text), rest)
  | _ => readPlain? s

/-- The entries so far, and the path of the header under which lines stand. -/
structure Progress where
  entries : Entries
  header : List String

/-- Reads a header, after its opening brackets. -/
def readHeader? (closing : List Char) (opened : List String → String → Entries → Option Entries)
    (entries : Entries) (s : List Char) : Option (Progress × List Char) := do
  let (path, key, s) ← readKey? s
  let s ← if s.take closing.length = closing then some (s.drop closing.length) else none
  let rest ← lineEnd? s
  let entries ← opened path key entries
  return (⟨entries, path ++ [key]⟩, rest)

/-- Reads a line that is neither blank nor a comment. -/
def readLine? (progress : Progress) (s : List Char) : Option (Progress × List Char) :=
  match s with
  | '[' :: '[' :: rest => readHeader? [']', ']'] openListTable progress.entries rest
  | '[' :: rest => readHeader? [']'] openTable progress.entries rest
  | _ => do
    let ((path, key, value), s) ← readPair? (readValue? (maxNesting - 1)) s
    let rest ← lineEnd? s
    let entries ←
      changeAt false (addPair path key value) progress.header .header progress.entries
    return (⟨entries, progress.header⟩, rest)

/-- Reads at most `most` lines. -/
def readLines? : Nat → Progress → List Char → Option Entries
  | 0, _, _ => none
  | most + 1, progress, s =>
    match dropSpace s with
    | [] => some progress.entries
    | '#' :: rest => (lineEnd? ('#' :: rest)).bind (readLines? most progress)
    | s =>
      match newline? s with
      | some rest => readLines? most progress rest
      | none => (readLine? progress s).bind fun (progress, rest) => readLines? most progress rest

/-- The entries of a file. A byte-order mark at its beginning does not count. -/
def parse? (text : String) : Option Entries :=
  let s := match text.toList with
    | '\uFEFF' :: rest => rest
    | s => s
  readLines? (s.length + 1) ⟨[], []⟩ s

end QueryVariants.Toml
