import QueryVariants.Text.Numeral

/-!
# Calendar days

Dates of the proleptic Gregorian calendar, their numbering by consecutive integers, and their written
form `YYYY-MM-DD`.
-/

namespace QueryVariants

namespace Calendar

def isLeapYear (year : Int) : Bool :=
  year % 4 == 0 && (year % 100 != 0 || year % 400 == 0)

/-- The lengths of the months in order. -/
def monthLengths (year : Int) : List Nat :=
  [31, if isLeapYear year then 29 else 28, 31, 30, 31, 30, 31, 31, 30, 31, 30, 31]

/-- The number of the first of January of `year`; the day of year 1 has number 0. -/
def yearStart (year : Int) : Int :=
  let before := year - 1
  365 * before + before / 4 - before / 100 + before / 400

/-- The year that holds a day: the estimate by the mean length of a year is off by one at most. -/
def yearOfDay (number : Int) : Int :=
  let estimate := (400 * number) / 146097 + 1
  if number < yearStart estimate then estimate - 1
  else if yearStart (estimate + 1) ≤ number then estimate + 1
  else estimate

/-- The month and the day in it, both counted from one, `offset` days after the start of a run of
months. -/
def monthOfOffset : List Nat → Nat → Nat × Nat
  | [], offset => (1, offset + 1)
  | length :: rest, offset =>
    if offset < length then (1, offset + 1)
    else
      let (month, day) := monthOfOffset rest (offset - length)
      (month + 1, day)

end Calendar

/-- A date; the years run from -262143 to 262142. -/
structure Date where
  year : Int
  month : Nat
  day : Nat
  deriving DecidableEq, Repr

namespace Date

open Calendar Text

/-- The date exists in the calendar. -/
def Valid (date : Date) : Prop :=
  -262143 ≤ date.year ∧ date.year ≤ 262142 ∧ 1 ≤ date.month ∧ date.month ≤ 12 ∧ 1 ≤ date.day ∧
    date.day ≤ (monthLengths date.year).getD (date.month - 1) 0

instance (date : Date) : Decidable date.Valid := by
  unfold Valid
  infer_instance

/-- The first and the last date. -/
def first : Date := ⟨-262143, 1, 1⟩

def last : Date := ⟨262142, 12, 31⟩

def dayNumber (date : Date) : Int :=
  let earlier : Nat := ((monthLengths date.year).take (date.month - 1)).foldr (· + ·) 0
  yearStart date.year + earlier + date.day - 1

def ofDayNumber (number : Int) : Date :=
  let year := yearOfDay number
  let (month, day) := monthOfOffset (monthLengths year) (number - yearStart year).toNat
  ⟨year, month, day⟩

/-- Reads up to `most` digits, blanks before them allowed. -/
def readField? (most : Nat) (s : List Char) : Option (Nat × List Char) :=
  let s := trimStart s
  let digits := (s.take most).takeWhile Char.isDigit
  if digits.isEmpty then none else some (digitsValue digits, s.drop digits.length)

/-- A year has a sign and any number of digits, or no sign and at most four. -/
def readYear? (s : List Char) : Option (Int × List Char) :=
  match trimStart s with
  | '-' :: rest => (signed rest).map fun (n, rest) => (-(n : Int), rest)
  | '+' :: rest => (signed rest).map fun (n, rest) => ((n : Int), rest)
  | s => (readField? 4 s).map fun (n, rest) => ((n : Int), rest)
where
  /-- The digits after a sign; no blank may stand between. -/
  signed (s : List Char) : Option (Nat × List Char) :=
    let digits := s.takeWhile Char.isDigit
    if digits.isEmpty then none else some (digitsValue digits, s.drop digits.length)

def readHyphen? : List Char → Option (List Char)
  | '-' :: rest => some rest
  | _ => none

/-- Reads `YYYY-MM-DD`, with blanks around it and before each number. -/
def read? (s : List Char) : Option Date := do
  let (year, s) ← readYear? (trim s)
  let s ← readHyphen? s
  let (month, s) ← readField? 2 s
  let s ← readHyphen? s
  let (day, s) ← readField? 2 s
  let date : Date := ⟨year, month, day⟩
  if s.isEmpty && date.Valid then some date else none

/-- Years outside 0 to 9999 are written with a sign. -/
def yearDigits (year : Int) : List Char :=
  if year < 0 then '-' :: paddedDigits 4 year.natAbs
  else if 9999 < year then '+' :: paddedDigits 4 year.natAbs
  else paddedDigits 4 year.natAbs

def chars (date : Date) : List Char :=
  yearDigits date.year ++ '-' :: paddedDigits 2 date.month ++ '-' :: paddedDigits 2 date.day

protected def toString (date : Date) : String :=
  String.ofList date.chars

end Date

end QueryVariants
