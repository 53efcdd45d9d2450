/-!
# Texts in UTF-8

Bytes that are not UTF-8 throughout are read in one of two ways. A file that is read line by line is good
up to the first line that is not UTF-8. Bytes that are only shown are read to the end, and a mark stands
where they begin no character or break one off.
-/

namespace QueryVariants.Text

/-- The text of the lines before the first that is not UTF-8, with their endings. -/
def decodeLines : List (List UInt8) → String
  | [] => ""
  | line :: lines =>
    match String.fromUTF8? ⟨line.toArray⟩ with
    | none => ""
    | some text => if lines.isEmpty then text else text ++ "\n" ++ decodeLines lines

/-- The text of a file up to the first line that is not UTF-8. -/
def validText (content : ByteArray) : String :=
  decodeLines (content.toList.splitOn 10)

/-- The ranges of the bytes that follow the first byte of a character, none if no character begins with
it. -/
def continuations? (first : UInt8) : Option (List (UInt8 × UInt8)) :=
  let tail : UInt8 × UInt8 := (0x80, 0xBF)
  if first < 0x80 then some []
  else if first < 0xC2 then none
  else if first < 0xE0 then some [tail]
  else if first = 0xE0 then some [(0xA0, 0xBF), tail]
  else if first = 0xED then some [(0x80, 0x9F), tail]
  else if first < 0xF0 then some [tail, tail]
  else if first = 0xF0 then some [(0x90, 0xBF), tail, tail]
  else if first < 0xF4 then some [tail, tail, tail]
  else if first = 0xF4 then some [(0x80, 0x8F), tail, tail]
  else none

/-- The bytes at the beginning that lie in the given ranges, one byte to a range. -/
def takeInRanges : List (UInt8 × UInt8) → List UInt8 → List UInt8
  | (low, high) :: ranges, b :: bytes =>
    if low ≤ b ∧ b ≤ high then b :: takeInRanges ranges bytes else []
  | _, _ => []

/-- The character of a first byte and the bytes after it: each of these holds six bits, and the first
byte one bit less than are left beside its mark of the length. -/
def charOfBytes (first : UInt8) (following : List UInt8) : Char :=
  let lead := first.toNat % (if following.isEmpty then 128 else 64 >>> following.length)
  Char.ofNat (following.foldl (fun n b => n * 64 + b.toNat % 64) lead)

/-- The mark for bytes that are no character. -/
def replacementMark : Char := '\uFFFD'

/-- The characters of some bytes. One mark stands for each beginning of a character that is broken off,
and for each byte with which none begins. -/
def decodeMarked : List UInt8 → List Char
  | [] => []
  | first :: bytes =>
    match continuations? first with
    | none => replacementMark :: decodeMarked bytes
    | some ranges =>
      let following := takeInRanges ranges bytes
      let c := if following.length = ranges.length then charOfBytes first following
        else replacementMark
      c :: decodeMarked (bytes.drop following.length)
termination_by bytes => bytes.length
decreasing_by all_goals grind

/-- The text of some bytes, with a mark for what is not UTF-8. -/
def markedText (bytes : List UInt8) : String :=
  String.ofList (decodeMarked bytes)

end QueryVariants.Text
