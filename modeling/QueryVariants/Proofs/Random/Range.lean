import QueryVariants.Proofs.Text.Numeral
import QueryVariants.Random.Range

/-!
# Draws stay in their range

A draw below a width is below it for every stream, whether it takes one word or two. A draw between two
signed numbers of 64 bits is between them; only the range of all such numbers is drawn as a whole word.
-/

namespace QueryVariants.Random

variable {width : Nat} {low high : Int}

theorem signedWord_bounds (w : UInt64) :
    -(Text.maxSigned + 1 : Int) ≤ signedWord w ∧ signedWord w ≤ Text.maxSigned := by
  have hlow := Int.le_bmod (x := (w.toNat : Int)) (m := UInt64.size) (by decide)
  have hhigh := Int.bmod_lt (x := (w.toNat : Int)) (m := UInt64.size) (by decide)
  unfold signedWord Text.maxSigned
  simp only [UInt64.size] at hlow hhigh ⊢
  omega

namespace Stream

theorem below_lt (stream : Stream) (h : 0 < width) : (stream.below width).1 < width := by
  unfold below
  dsimp only
  split <;> exact select_lt h _ _

theorem between_bounds (stream : Stream) (hle : low ≤ high) (hlow : -(Text.maxSigned + 1 : Int) ≤ low)
    (hhigh : high ≤ Text.maxSigned) :
    low ≤ (stream.between low high).1 ∧ (stream.between low high).1 ≤ high := by
  unfold between
  dsimp only
  split
  · rename_i hwidth
    have hword := signedWord_bounds stream.next.1
    unfold Text.maxSigned at *
    simp only [UInt64.size] at hwidth
    omega
  · have hoffset : (stream.below (high - low + 1).toNat).1 < (high - low + 1).toNat :=
      below_lt stream (by omega)
    omega

end Stream

end QueryVariants.Random
