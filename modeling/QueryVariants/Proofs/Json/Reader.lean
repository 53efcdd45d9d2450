import QueryVariants.Text.Numeral

/-!
# Reading JSON

A strict reader for the JSON texts of RFC 8259, all of them and not only those that the library writes. It
follows the grammar of the RFC and shares nothing with the writer but the value of a run of digits. Blanks
may stand before and after every token and nothing else may; a number has no zeros in front; a string has
no bare control character, and an escaped surrogate counts only as half of a pair.

Each reader gives what it has read with the text left behind it.
-/

namespace QueryVariants

/-- A JSON value. The number is `mantissa * 10 ^ exponent`, and the members of an object keep their order. -/
inductive Json where
  | null
  | bool (value : Bool)
  | number (mantissa exponent : Int)
  | string (text : String)
  | array (items : List Json)
  | object (members : List (String × Json))

namespace Json

abbrev Reader (α : Type) :=
  List Char → Option (α × List Char)

def isBlank (c : Char) : Bool :=
  c = ' ' || c = '\t' || c = '\n' || c = '\r'

def skipBlanks (s : List Char) : List Char :=
  s.dropWhile isBlank

/-! ### Numbers -/

/-- A run of at least one digit. -/
def digits : Reader (List Char) := fun s =>
  let run := s.takeWhile Char.isDigit
  if run.isEmpty then none else some (run, s.dropWhile Char.isDigit)

/-- The part before the point: a zero, or digits of which the first is not zero. -/
def wholePart : Reader (List Char)
  | '0' :: rest => some (['0'], rest)
  | s => digits s

def fraction : Reader (List Char)
  | '.' :: rest => digits rest
  | s => some ([], s)

def signedDigits : Reader Int
  | '-' :: rest => (digits rest).map fun (run, rest) => (-(Text.digitsValue run : Int), rest)
  | '+' :: rest => (digits rest).map fun (run, rest) => ((Text.digitsValue run : Int), rest)
  | s => (digits s).map fun (run, rest) => ((Text.digitsValue run : Int), rest)

def exponent : Reader Int
  | 'e' :: rest | 'E' :: rest => signedDigits rest
  | s => some (0, s)

def unsignedNumber : Reader (Nat × Int) := fun s => do
  let (whole, rest) ← wholePart s
  let (decimals, rest) ← fraction rest
  let (power, rest) ← exponent rest
  return ((Text.digitsValue (whole ++ decimals), power - decimals.length), rest)

def numeral : Reader Json
  | '-' :: rest => (unsignedNumber rest).map fun ((n, power), rest) => (.number (-(n : Int)) power, rest)
  | s => (unsignedNumber s).map fun ((n, power), rest) => (.number n power, rest)

/-! ### Strings -/

def hexValue? (c : Char) : Option Nat :=
  if '0' ≤ c ∧ c ≤ '9' then some (c.toNat - '0'.toNat)
  else if 'a' ≤ c ∧ c ≤ 'f' then some (c.toNat - 'a'.toNat + 10)
  else if 'A' ≤ c ∧ c ≤ 'F' then some (c.toNat - 'A'.toNat + 10)
  else none

/-- The number that four hexadecimal digits write. -/
def codeUnit? (a b c d : Char) : Option Nat := do
  return 4096 * (← hexValue? a) + 256 * (← hexValue? b) + 16 * (← hexValue? c) + (← hexValue? d)

/-- What a character stands for behind a backslash. -/
def shortEscape? : Char → Option Char
  | '"' => some '"'
  | '\\' => some '\\'
  | '/' => some '/'
  | 'b' => some (Char.ofNat 8)
  | 'f' => some (Char.ofNat 12)
  | 'n' => some '\n'
  | 'r' => some '\r'
  | 't' => some '\t'
  | _ => none

def isHighSurrogate (n : Nat) : Bool :=
  0xD800 ≤ n && n < 0xDC00

def isLowSurrogate (n : Nat) : Bool :=
  0xDC00 ≤ n && n < 0xE000

/-- The character of a surrogate pair. -/
def ofSurrogates (high low : Nat) : Char :=
  Char.ofNat (0x10000 + 0x400 * (high - 0xD800) + (low - 0xDC00))

/-- Puts a character in front of what is read behind it. -/
def consChar (c : Char) (behind : Option (List Char × List Char)) : Option (List Char × List Char) :=
  behind.map fun (text, rest) => (c :: text, rest)

/-- The characters of a string up to the quote that ends it. -/
def chars : Reader (List Char)
  | [] => none
  | '"' :: rest => some ([], rest)
  | '\\' :: 'u' :: a :: b :: c :: d :: rest =>
    match codeUnit? a b c d with
    | none => none
    | some unit =>
      if isHighSurrogate unit then
        match rest with
        | '\\' :: 'u' :: a :: b :: c :: d :: rest =>
          match codeUnit? a b c d with
          | none => none
          | some low => if isLowSurrogate low then consChar (ofSurrogates unit low) (chars rest) else none
        | _ => none
      else if isLowSurrogate unit then none
      else consChar (Char.ofNat unit) (chars rest)
  | '\\' :: c :: rest =>
    match shortEscape? c with
    | none => none
    | some c => consChar c (chars rest)
  | c :: rest => if c.toNat < 32 then none else consChar c (chars rest)

def text : Reader String
  | '"' :: rest => (chars rest).map fun (text, rest) => (String.ofList text, rest)
  | _ => none

/-! ### Values -/

/-- The values without parts. -/
def scalar : Reader Json
  | 'n' :: 'u' :: 'l' :: 'l' :: rest => some (.null, rest)
  | 't' :: 'r' :: 'u' :: 'e' :: rest => some (.bool true, rest)
  | 'f' :: 'a' :: 'l' :: 's' :: 'e' :: rest => some (.bool false, rest)
  | '"' :: rest => (text ('"' :: rest)).map fun (text, rest) => (.string text, rest)
  | s => numeral s

section

variable {α : Type}

/-- Parts with commas between them up to the closing character; at most as many as the bound. -/
def sequence (closing : Char) (part : Reader α) : Nat → Reader (List α)
  | 0, _ => none
  | bound + 1, s =>
    match part s with
    | none => none
    | some (first, rest) =>
      match skipBlanks rest with
      | ',' :: rest =>
        (sequence closing part bound (skipBlanks rest)).map fun (others, rest) => (first :: others, rest)
      | c :: rest => if c = closing then some ([first], rest) else none
      | [] => none

/-- The parts behind an opening character; there may be none. -/
def enclosed (closing : Char) (part : Reader α) : Reader (List α) := fun s =>
  match skipBlanks s with
  | [] => none
  | c :: rest => if c = closing then some ([], rest) else sequence closing part (c :: rest).length (c :: rest)

def member (part : Reader α) : Reader (String × α) := fun s =>
  match text s with
  | none => none
  | some (name, rest) =>
    match skipBlanks rest with
    | ':' :: rest => (part (skipBlanks rest)).map fun (value, rest) => ((name, value), rest)
    | _ => none

end

/-- A value whose parts are nested less deeply than the bound. -/
def value : Nat → Reader Json
  | 0, _ => none
  | depth + 1, s =>
    match s with
    | '[' :: rest => (enclosed ']' (value depth) rest).map fun (items, rest) => (.array items, rest)
    | '\x7b' :: rest =>
      (enclosed '\x7d' (member (value depth)) rest).map fun (members, rest) => (.object members, rest)
    | s => scalar s

/-- Reads a text that is one JSON value and nothing else. -/
def read? (s : List Char) : Option Json :=
  match value s.length (skipBlanks s) with
  | none => none
  | some (json, rest) => if (skipBlanks rest).isEmpty then some json else none

end Json

end QueryVariants
