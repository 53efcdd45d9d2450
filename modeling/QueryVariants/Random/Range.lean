import QueryVariants.Random.Stream

/-!
# Uniform draws from a range

A word `w` selects the number `w * width / 2 ^ 64` below `width`. Where the low half of the product
comes close to a carry, a second word decides whether the carry happens. Both words are arguments of
`select`, so that what a draw can return is a statement about a pure function of two words.
-/

namespace QueryVariants.Random

/-- Whether the first word leaves the carry open. -/
def needsSecond (width : Nat) (first : UInt64) : Bool :=
  UInt64.size - width < first.toNat * width % UInt64.size

/-- The number below `width` that the words select. -/
def select (width : Nat) (first second : UInt64) : Nat :=
  let carry := if needsSecond width first then second.toNat * width / UInt64.size else 0
  (first.toNat * width + carry) / UInt64.size

theorem select_lt {width : Nat} (h : 0 < width) (first second : UInt64) :
    select width first second < width := by
  have hcarry : second.toNat * width / UInt64.size < width := by
    apply Nat.div_lt_of_lt_mul
    exact Nat.mul_lt_mul_of_pos_right second.toNat_lt_size h
  have hfirst : first.toNat * width + width ≤ UInt64.size * width := by
    rw [← Nat.succ_mul]
    exact Nat.mul_le_mul_right _ first.toNat_lt_size
  unfold select
  apply Nat.div_lt_of_lt_mul
  split <;> omega

/-- The word read as a signed number. -/
def signedWord (w : UInt64) : Int :=
  (w.toNat : Int).bmod UInt64.size

namespace Stream

/-- Draws a number below `width`, which is at most `2 ^ 64 - 1`. -/
def below (stream : Stream) (width : Nat) : Nat × Stream :=
  let (first, rest) := stream.next
  if needsSecond width first then
    let (second, rest) := rest.next
    (select width first second, rest)
  else
    (select width first 0, rest)

/-- Draws a number between `low` and `high`, ends included. When the range is the whole of the signed
64-bit numbers the word itself is the number. -/
def between (stream : Stream) (low high : Int) : Int × Stream :=
  let width := (high - low + 1).toNat
  if width = UInt64.size then
    let (word, rest) := stream.next
    (signedWord word, rest)
  else
    let (offset, rest) := stream.below width
    (low + offset, rest)

end Stream

end QueryVariants.Random
