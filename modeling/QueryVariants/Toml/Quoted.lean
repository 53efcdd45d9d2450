import QueryVariants.Toml.Scalar

/-!
# Quoted texts and keys of a configuration file

A text stands between double quotes, with escapes, or between single quotes, without. Tripled quotes
enclose a text of several lines. Each reader starts after the opening quotes and returns the text and what
follows the closing ones.
-/

namespace QueryVariants.Toml

def isSpace (c : Char) : Bool :=
  c == ' ' || c == '\t'

def dropSpace (s : List Char) : List Char :=
  s.dropWhile isSpace

/-- What follows a line ending. -/
def newline? : List Char → Option (List Char)
  | '\n' :: rest => some rest
  | '\r' :: '\n' :: rest => some rest
  | _ => none

/-- The characters that may stand in a comment or a text: all but the control characters, of which the
tab is allowed. -/
def isPlain (c : Char) : Bool :=
  c == '\t' || (0x20 ≤ c.toNat && c.toNat != 0x7F)

def simpleEscape? (c : Char) : Option Char :=
  [('b', '\x08'), ('t', '\t'), ('n', '\n'), ('f', '\x0c'), ('r', '\r'), ('"', '"'),
    ('\\', '\\')].lookup c

/-- The character of a code point in hexadecimal. -/
def codePoint? (digits : List Char) : Option Char := do
  let values ← digits.mapM (digitIn? 16)
  let n := values.foldl (fun n d => 16 * n + d) 0
  if n.isValidChar then some (Char.ofNat n) else none

/-- Puts a character in front of a text that has been read. -/
def withFirst (c : Option Char) (read : Option (List Char × List Char)) :
    Option (List Char × List Char) := do
  let c ← c
  let (text, rest) ← read
  return (c :: text, rest)

/-- Drops blanks and line endings. -/
def dropLayout : List Char → List Char
  | '\r' :: '\n' :: rest => dropLayout rest
  | c :: rest => if isSpace c || c == '\n' then dropLayout rest else c :: rest
  | [] => []

/-- A text in double quotes. -/
def basicText? : List Char → Option (List Char × List Char)
  | [] => none
  | '"' :: rest => some ([], rest)
  | '\\' :: 'u' :: a :: b :: c :: d :: rest => withFirst (codePoint? [a, b, c, d]) (basicText? rest)
  | '\\' :: 'U' :: a :: b :: c :: d :: e :: f :: g :: h :: rest =>
    withFirst (codePoint? [a, b, c, d, e, f, g, h]) (basicText? rest)
  | '\\' :: c :: rest => withFirst (simpleEscape? c) (basicText? rest)
  | c :: rest =>
    if isPlain c && c != '\\' then withFirst (some c) (basicText? rest) else none

/-- A text in single quotes. -/
def literalText? : List Char → Option (List Char × List Char)
  | [] => none
  | '\'' :: rest => some ([], rest)
  | c :: rest => if isPlain c then withFirst (some c) (literalText? rest) else none

/-- The end of a text in tripled quotes, after three of them: up to two more belong to the text. -/
def closeLong (quoteMark : Char) (s : List Char) : List Char × List Char :=
  let extra := (s.take 2).takeWhile (· = quoteMark)
  (extra, s.drop extra.length)

/-- A text in tripled double quotes, read with `fuel` for each of its characters. A backslash at the end
of a line drops the line ending and the blanks and line endings after it. -/
def longBasicText? : Nat → List Char → Option (List Char × List Char)
  | 0, _ => none
  | fuel + 1, s =>
    match s with
    | [] => none
    | '"' :: '"' :: '"' :: rest => some (closeLong '"' rest)
    | '\\' :: 'u' :: a :: b :: c :: d :: rest =>
      withFirst (codePoint? [a, b, c, d]) (longBasicText? fuel rest)
    | '\\' :: 'U' :: a :: b :: c :: d :: e :: f :: g :: h :: rest =>
      withFirst (codePoint? [a, b, c, d, e, f, g, h]) (longBasicText? fuel rest)
    | '\\' :: c :: rest =>
      match newline? (dropSpace (c :: rest)) with
      | some after => longBasicText? fuel (dropLayout after)
      | none => withFirst (simpleEscape? c) (longBasicText? fuel rest)
    | c :: rest =>
      match newline? s with
      | some after => withFirst (some '\n') (longBasicText? fuel after)
      | none =>
        if isPlain c && c != '\\' then withFirst (some c) (longBasicText? fuel rest) else none

/-- A text in tripled single quotes. -/
def longLiteralText? : List Char → Option (List Char × List Char)
  | [] => none
  | '\'' :: '\'' :: '\'' :: rest => some (closeLong '\'' rest)
  | '\r' :: '\n' :: rest => withFirst (some '\n') (longLiteralText? rest)
  | c :: rest =>
    if isPlain c || c == '\n' then withFirst (some c) (longLiteralText? rest) else none

/-- A line ending directly after the opening quotes does not belong to the text. -/
def dropNewline (s : List Char) : List Char :=
  (newline? s).getD s

/-- Reads a quoted text of any kind. -/
def readQuoted? : List Char → Option (List Char × List Char)
  | '"' :: '"' :: '"' :: rest => longBasicText? (rest.length + 1) (dropNewline rest)
  | '\'' :: '\'' :: '\'' :: rest => longLiteralText? (dropNewline rest)
  | '"' :: rest => basicText? rest
  | '\'' :: rest => literalText? rest
  | _ => none

def isBareKeyChar (c : Char) : Bool :=
  c.isAlphanum || c == '_' || c == '-'

/-- Reads one part of a key: a quoted text on one line, or a bare word. -/
def readKeyPart? (s : List Char) : Option (String × List Char) :=
  let read := match s with
    | '"' :: rest => basicText? rest
    | '\'' :: rest => literalText? rest
    | _ =>
      let word := s.takeWhile isBareKeyChar
      if word.isEmpty then none else some (word, s.drop word.length)
  read.map fun (text, rest) => (String.ofList text, rest)

/-- How deep keys and values may be nested. -/
def maxNesting : Nat := 80

/-- Reads at most `most` parts of a dotted key, with blanks around each. -/
def readKeyParts? : Nat → List Char → Option (List String × List Char)
  | 0, _ => none
  | most + 1, s => do
    let (part, s) ← readKeyPart? (dropSpace s)
    match dropSpace s with
    | '.' :: rest =>
      let (parts, rest) ← readKeyParts? most rest
      return (part :: parts, rest)
    | s => return ([part], s)

/-- Reads a dotted key: the parts before the last, and the last. -/
def readKey? (s : List Char) : Option (List String × String × List Char) := do
  let (parts, rest) ← readKeyParts? (maxNesting - 1) s
  let last ← parts.getLast?
  return (parts.dropLast, last, rest)

end QueryVariants.Toml
