import QueryVariants.Text.CodeRanges
import QueryVariants.Text.PrintableTable

/-!
# Quoted text

The form in which a text is shown inside a message: between double quotes, with escapes for quotes,
backslashes and every character that would not show.
-/

namespace QueryVariants.Text

def isPrintable (c : Char) : Bool :=
  0x20 ≤ c.toNat && !inRanges unprintableRanges c

/-- The number of a character in lower-case hexadecimal, without leading zeros. -/
def hexDigits (n : Nat) : List Char :=
  Nat.toDigits 16 n

def quoteChar (c : Char) : List Char :=
  if c = '"' then ['\\', '"']
  else if c = '\\' then ['\\', '\\']
  else if c = '\n' then ['\\', 'n']
  else if c = '\r' then ['\\', 'r']
  else if c = '\t' then ['\\', 't']
  else if c.toNat = 0 then ['\\', '0']
  else if isPrintable c then [c]
  else ['\\', 'u', '\x7b'] ++ hexDigits c.toNat ++ ['\x7d']

/-- The text between quotes. -/
def quote (s : String) : String :=
  String.ofList ('"' :: s.toList.flatMap quoteChar ++ ['"'])

/-- A list of texts in brackets, each quoted. -/
def quoteList (items : List String) : String :=
  "[" ++ ", ".intercalate (items.map quote) ++ "]"

end QueryVariants.Text
