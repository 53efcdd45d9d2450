import QueryVariants.Random.Range

/-!
# The words of a draw

A draw below a width is a function of the next two words of the stream, of which the second counts only when
the first leaves the carry open. Every number below the width is drawn for some words: the first word is the
least whose product with the width reaches the number, and a second word of zero brings no carry.
-/

namespace QueryVariants.Random

variable {width : Nat} {first second : UInt64}

/-- The high half of the first product, and one more if the first word leaves the carry open and the low half
and the high half of the second product carry. -/
def wideningProduct (width : Nat) (first second : UInt64) : Nat :=
  let low := first.toNat * width % UInt64.size
  let more := second.toNat * width / UInt64.size
  first.toNat * width / UInt64.size +
    if UInt64.size - width < low ∧ UInt64.size ≤ low + more then 1 else 0

theorem select_eq_wideningProduct (hwidth : width ≤ UInt64.size) (first second : UInt64) :
    select width first second = wideningProduct width first second := by
  have hlow := Nat.mod_lt (first.toNat * width) (show 0 < UInt64.size by decide)
  have hsecond : second.toNat * width / UInt64.size < UInt64.size := by
    apply Nat.div_lt_of_lt_mul
    calc second.toNat * width
      _ ≤ second.toNat * UInt64.size := Nat.mul_le_mul_left _ hwidth
      _ < UInt64.size * UInt64.size := Nat.mul_lt_mul_of_pos_right second.toNat_lt_size (by decide)
  have hsplit := Nat.div_add_mod (first.toNat * width) UInt64.size
  unfold select wideningProduct
  by_cases hneeds : UInt64.size - width < first.toNat * width % UInt64.size
  · have hselect : needsSecond width first = true := decide_eq_true hneeds
    simp only [hselect, hneeds, if_true, true_and]
    simp only [UInt64.size] at hlow hsecond hsplit ⊢
    split <;> omega
  · have hselect : needsSecond width first = false := decide_eq_false hneeds
    simp only [hselect, hneeds, false_and, if_false, Bool.false_eq_true, Nat.add_zero]

theorem wideningProduct_lt (hpos : 0 < width) (hwidth : width ≤ UInt64.size) (first second : UInt64) :
    wideningProduct width first second < width := by
  rw [← select_eq_wideningProduct hwidth]
  exact select_lt hpos first second

/-- A second word counts only when it is needed. -/
theorem select_of_not_needsSecond (h : needsSecond width first = false) :
    select width first second = select width first 0 := by
  simp [select, h]

/-- Every number below the width is selected by some first word, with zero as the second. -/
theorem exists_select_eq {k : Nat} (hk : k < width) (hwidth : width ≤ UInt64.size) :
    ∃ first, select width first 0 = k := by
  -- The least multiple of the width that reaches `k * 2 ^ 64` stays below `(k + 1) * 2 ^ 64`.
  obtain ⟨word, hquotient⟩ : ∃ word, (k * UInt64.size + (width - 1)) / width = word := ⟨_, rfl⟩
  have hdivision := Nat.div_add_mod (k * UInt64.size + (width - 1)) width
  have hmod := Nat.mod_lt (k * UInt64.size + (width - 1)) (show 0 < width by omega)
  rw [hquotient, Nat.mul_comm] at hdivision
  have hlow : k * UInt64.size ≤ word * width := by omega
  have hhigh : word * width < (k + 1) * UInt64.size := by
    rw [Nat.succ_mul]
    omega
  have hword : word < UInt64.size := by
    apply Nat.lt_of_mul_lt_mul_right (a := width)
    calc word * width
      _ < (k + 1) * UInt64.size := hhigh
      _ ≤ width * UInt64.size := Nat.mul_le_mul_right _ hk
      _ = UInt64.size * width := Nat.mul_comm _ _
  refine ⟨UInt64.ofNat word, ?_⟩
  have htoNat : (UInt64.ofNat word).toNat = word := UInt64.toNat_ofNat_of_lt hword
  rw [select, htoNat, UInt64.toNat_zero, Nat.zero_mul, Nat.zero_div, ite_self, Nat.add_zero]
  exact Nat.div_eq_of_lt_le hlow hhigh

namespace Stream

/-- The number that is drawn is the one that the next two words select. -/
theorem below_fst (stream : Stream) (width : Nat) :
    (stream.below width).1 = select width stream.next.1 stream.next.2.next.1 := by
  unfold below
  dsimp only
  split
  · rfl
  · rename_i hneeds
    exact (select_of_not_needsSecond (by simpa using hneeds)).symm

/-- A draw takes one word, or two if the first leaves the carry open. -/
theorem below_snd (stream : Stream) (width : Nat) :
    (stream.below width).2 =
      if needsSecond width stream.next.1 then stream.next.2.next.2 else stream.next.2 := by
  unfold below
  dsimp only
  split <;> rfl

end Stream

end QueryVariants.Random
