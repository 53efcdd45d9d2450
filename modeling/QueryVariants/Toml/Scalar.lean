import QueryVariants.Calendar
import QueryVariants.Toml.Value

/-!
# Plain values of a configuration file

Numbers, truth values and dates are read from a word: the longest run of characters that can stand in one
of them. A word must be one of these values as a whole.
-/

namespace QueryVariants.Toml

open Text

def isWordChar (c : Char) : Bool :=
  c.isAlphanum || c == '+' || c == '-' || c == '.' || c == '_' || c == ':'

/-- The digits of a group in which single underscores stand between digits. -/
def digitGroup? (isDigit : Char → Bool) : List Char → Option (List Char)
  | [] => none
  | [c] => if isDigit c then some [c] else none
  | c :: '_' :: rest => if isDigit c then (digitGroup? isDigit rest).map (c :: ·) else none
  | c :: rest => if isDigit c then (digitGroup? isDigit rest).map (c :: ·) else none

def digitIn? (base : Nat) (c : Char) : Option Nat :=
  let n :=
    if c.isDigit then c.toNat - '0'.toNat
    else if c.isAlpha then c.toLower.toNat - 'a'.toNat + 10
    else base
  if n < base then some n else none

/-- A number in a base other than ten, without a sign. -/
def basedInteger? (base : Nat) (word : List Char) : Option Int := do
  let digits ← digitGroup? (fun c => (digitIn? base c).isSome) word
  let n := digits.foldl (fun n c => base * n + (digitIn? base c).getD 0) 0
  if n ≤ maxSigned then some n else none

/-- The sign of a word, and the rest of it. -/
def splitSign : List Char → Bool × List Char
  | '-' :: rest => (true, rest)
  | '+' :: rest => (false, rest)
  | s => (false, s)

/-- Decimal digits without a needless zero in front. -/
def decimal? (word : List Char) : Option Nat :=
  match digitGroup? Char.isDigit word with
  | some ('0' :: _ :: _) => none
  | digits => digits.map digitsValue

def integer? (word : List Char) : Option Int :=
  match word with
  | '0' :: 'x' :: rest => basedInteger? 16 rest
  | '0' :: 'o' :: rest => basedInteger? 8 rest
  | '0' :: 'b' :: rest => basedInteger? 2 rest
  | _ => do
    let (negative, rest) := splitSign word
    let n ← decimal? rest
    if negative then if n ≤ maxSigned + 1 then some (-(n : Int)) else none
    else if n ≤ maxSigned then some n else none

/-- Whether `digits * 10 ^ exponent` is too great for a floating-point number of 64 bits. -/
def overflows (digits : Nat) (exponent : Int) : Bool :=
  let magnitude := ((natDigits digits).length : Int) + exponent
  let limit := Nat.pow 2 1024 - Nat.pow 2 970
  if digits = 0 ∨ magnitude < 309 then false
  else if 309 < magnitude then true
  else if 0 ≤ exponent then limit ≤ digits * Nat.pow 10 exponent.toNat
  else limit * Nat.pow 10 exponent.natAbs ≤ digits

/-- Whether the word is a floating-point number: an integer with a fraction, an exponent or both. -/
def isFloat (word : List Char) : Bool :=
  let (negative, body) := splitSign word
  if body = "inf".toList ∨ body = "nan".toList then true
  else
    let mantissa := body.takeWhile fun c => c != 'e' && c != 'E'
    let exponentPart := body.drop mantissa.length
    let whole := mantissa.takeWhile (· ≠ '.')
    let fractionPart := mantissa.drop whole.length
    let fraction? := match fractionPart with
      | [] => some []
      | _ :: digits => digitGroup? Char.isDigit digits
    let exponent? := match exponentPart with
      | [] => some (0 : Int)
      | _ :: rest =>
        let (negative, digits) := splitSign rest
        (digitGroup? Char.isDigit digits).map fun digits =>
          if negative then -(digitsValue digits : Int) else digitsValue digits
    match decimal? whole, fraction?, exponent? with
    | some n, some fraction, some exponent =>
      let digits := n * Nat.pow 10 fraction.length + digitsValue fraction
      !(fractionPart.isEmpty && exponentPart.isEmpty) &&
        (negative || !overflows digits (exponent - fraction.length))
    | _, _, _ => false

/-- A number of exactly `width` digits in a range. -/
def fixedDigits? (width low high : Nat) (s : List Char) : Option (Nat × List Char) :=
  let digits := s.take width
  let n := digitsValue digits
  if digits.length = width ∧ digits.all Char.isDigit ∧ low ≤ n ∧ n ≤ high then
    some (n, s.drop width)
  else none

def char? (c : Char) : List Char → Option (List Char)
  | d :: rest => if c = d then some rest else none
  | [] => none

/-- A time of day `hh:mm:ss`, and what follows. -/
def time? (s : List Char) : Option (List Char) := do
  let (_, s) ← fixedDigits? 2 0 23 s
  let s ← char? ':' s
  let (_, s) ← fixedDigits? 2 0 59 s
  let s ← char? ':' s
  let (_, s) ← fixedDigits? 2 0 60 s
  match s with
  | '.' :: fraction =>
    let rest := fraction.dropWhile Char.isDigit
    if rest.length < fraction.length then some rest else none
  | _ => some s

/-- A distance from universal time, which may be missing. -/
def isOffset (s : List Char) : Bool :=
  match s with
  | [] => true
  | [c] => c == 'Z' || c == 'z'
  | c :: rest =>
    (c == '+' || c == '-') &&
      (do
        let (_, s) ← fixedDigits? 2 0 23 rest
        let s ← char? ':' s
        let (_, s) ← fixedDigits? 2 0 59 s
        return s.isEmpty).getD false

def isTimeWithOffset (s : List Char) : Bool :=
  match time? s with
  | some rest => isOffset rest
  | none => false

/-- A date `yyyy-mm-dd`, and what follows. -/
def date? (s : List Char) : Option (List Char) := do
  let (year, s) ← fixedDigits? 4 0 9999 s
  let s ← char? '-' s
  let (month, s) ← fixedDigits? 2 1 12 s
  let s ← char? '-' s
  let (_, s) ← fixedDigits? 2 1 ((Calendar.monthLengths year).getD (month - 1) 0) s
  return s

def isDatetime (word : List Char) : Bool :=
  match date? word with
  | some [] => true
  | some (c :: rest) => (c == 'T' || c == 't') && isTimeWithOffset rest
  | none =>
    match time? word with
    | some rest => rest.isEmpty
    | none => false

/-- The value that a word is. -/
def ofWord? (word : List Char) : Option Value :=
  if word = "true".toList then some (.boolean true)
  else if word = "false".toList then some (.boolean false)
  else if isDatetime word then some .datetime
  else
    match integer? word with
    | some n => some (.integer n)
    | none => if isFloat word then some .float else none

/-- Reads a plain value. A space may stand between a date and a time. -/
def readPlain? (s : List Char) : Option (Value × List Char) := do
  let word := s.takeWhile isWordChar
  let rest := s.drop word.length
  let value ← ofWord? word
  match rest with
  | ' ' :: after =>
    let time := after.takeWhile isWordChar
    if date? word = some [] ∧ isTimeWithOffset time then
      return (.datetime, after.drop time.length)
    else return (value, rest)
  | _ => return (value, rest)

end QueryVariants.Toml
