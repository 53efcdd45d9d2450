import QueryVariants.Text.Blank

/-!
# Decimal numerals

A numeral is a nonempty run of ASCII digits; leading zeros are allowed. The two readers below take an
optional sign in front and refuse what does not fit in 64 bits.
-/

namespace QueryVariants.Text

/-- The value of a run of decimal digits. -/
def digitsValue (digits : List Char) : Nat :=
  digits.foldl (fun n c => 10 * n + (c.toNat - '0'.toNat)) 0

def readNat? (s : List Char) : Option Nat :=
  if !s.isEmpty && s.all Char.isDigit then some (digitsValue s) else none

/-- Reads a natural number below `2 ^ 64`, with an optional `+`. -/
def readUnsigned? (s : List Char) : Option Nat :=
  let digits := match s with
    | '+' :: rest => rest
    | _ => s
  (readNat? digits).filter (· < UInt64.size)

/-- The greatest signed number of 64 bits. -/
def maxSigned : Nat := 9223372036854775807

/-- Reads an integer of the range `-2 ^ 63` to `2 ^ 63 - 1`, with an optional sign. -/
def readSigned? : List Char → Option Int
  | '-' :: rest => ((readNat? rest).filter (· ≤ maxSigned + 1)).map fun n => -(n : Int)
  | '+' :: rest => ((readNat? rest).filter (· ≤ maxSigned)).map fun n => (n : Int)
  | s => ((readNat? s).filter (· ≤ maxSigned)).map fun n => (n : Int)

/-- The decimal digits of a natural number. -/
def natDigits (n : Nat) : List Char :=
  Nat.toDigits 10 n

/-- `n` in decimal with zeros in front up to `width` digits. -/
def paddedDigits (width n : Nat) : List Char :=
  let digits := natDigits n
  List.replicate (width - digits.length) '0' ++ digits

end QueryVariants.Text
