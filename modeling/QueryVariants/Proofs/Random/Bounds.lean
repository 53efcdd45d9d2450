import QueryVariants.Proofs.Random.Range
import QueryVariants.Proofs.Random.Words

/-!
# Draws between two bounds

A draw between two bounds is a function of the next two words of the stream, and every number between the bounds
is drawn for some words. The machine computes it on words of 64 bits that wrap around: the number of values
is zero for the range of all signed words, the high half of the product may be raised by one, and the
result is added to the lower bound as a signed word. None of these wraps at a wrong place, so the machine draws
the number that exact integers give.
-/

namespace QueryVariants.Random

variable {low high number : Int} {first second : UInt64}

/-- The number between two bounds that two random words lead to. -/
def numberBetween (low high : Int) (first second : UInt64) : Int :=
  let width := (high - low + 1).toNat
  if width = UInt64.size then signedWord first else low + wideningProduct width first second

theorem numberBetween_bounds (hle : low ≤ high) (hlow : -(Text.maxSigned + 1 : Int) ≤ low)
    (hhigh : high ≤ Text.maxSigned) (first second : UInt64) :
    low ≤ numberBetween low high first second ∧ numberBetween low high first second ≤ high := by
  have hfit : (high - low + 1).toNat ≤ UInt64.size := by
    simp only [Text.maxSigned, UInt64.size] at *
    omega
  unfold numberBetween
  dsimp only
  split
  · rename_i hwidth
    have hword := signedWord_bounds first
    simp only [Text.maxSigned, UInt64.size] at *
    omega
  · have hlt := wideningProduct_lt (by omega) hfit first second
    omega

/-- Every signed number of 64 bits is a word. -/
theorem exists_signedWord_eq (hlow : -(Text.maxSigned + 1 : Int) ≤ number) (hhigh : number ≤ Text.maxSigned) :
    ∃ word, signedWord word = number := by
  have hsize : (0 : Int) < UInt64.size := by decide
  have hnonneg := Int.emod_nonneg number (Int.ne_of_gt hsize)
  have hlt := Int.emod_lt_of_pos number hsize
  refine ⟨UInt64.ofNat (number % UInt64.size).toNat, ?_⟩
  have hword : (UInt64.ofNat (number % UInt64.size).toNat).toNat = (number % UInt64.size).toNat :=
    UInt64.toNat_ofNat_of_lt (by omega)
  calc signedWord (UInt64.ofNat (number % UInt64.size).toNat)
    _ = ((number % UInt64.size).toNat : Int).bmod UInt64.size :=
      congrArg (fun n : Nat => (n : Int).bmod UInt64.size) hword
    _ = number.bmod UInt64.size := by rw [Int.toNat_of_nonneg hnonneg, Int.emod_bmod]
    _ = number := by
      unfold Text.maxSigned at hlow hhigh
      apply Int.bmod_eq_of_le <;> simp only [UInt64.size] <;> omega

/-- Every number between the bounds is drawn for some words. -/
theorem exists_numberBetween_eq (hlow : low ≤ number) (hhigh : number ≤ high)
    (hfirst : -(Text.maxSigned + 1 : Int) ≤ low) (hlast : high ≤ Text.maxSigned) :
    ∃ first second, numberBetween low high first second = number := by
  have hfit : (high - low + 1).toNat ≤ UInt64.size := by
    simp only [Text.maxSigned, UInt64.size] at *
    omega
  unfold numberBetween
  dsimp only
  split
  · obtain ⟨word, hword⟩ := exists_signedWord_eq (Int.le_trans hfirst hlow) (Int.le_trans hhigh hlast)
    exact ⟨word, 0, hword⟩
  · have hoffset : (number - low).toNat < (high - low + 1).toNat := by omega
    obtain ⟨first, hselect⟩ := exists_select_eq hoffset hfit
    rw [select_eq_wideningProduct hfit] at hselect
    refine ⟨first, 0, ?_⟩
    rw [hselect]
    omega

namespace Stream

/-- A draw between two bounds takes one word, or two if the first leaves the carry open. -/
theorem between_eq (stream : Stream) (hfit : (high - low + 1).toNat ≤ UInt64.size) :
    stream.between low high =
      (numberBetween low high stream.next.1 stream.next.2.next.1,
        if needsSecond (high - low + 1).toNat stream.next.1 then stream.next.2.next.2 else stream.next.2) := by
  unfold between numberBetween
  dsimp only
  split
  · rename_i hwidth
    have hneeds : needsSecond UInt64.size stream.next.1 = false := by
      simp [needsSecond, Nat.mul_mod_left]
    rw [hwidth, hneeds]
    rfl
  · rw [← select_eq_wideningProduct hfit, ← below_fst, ← below_snd]

end Stream

/-! ### The draw in words of 64 bits -/

/-- The high half of the product of two words. -/
def highHalf (x y : UInt64) : UInt64 :=
  UInt64.ofNat (x.toNat * y.toNat / UInt64.size)

/-- The draw below a width in the arithmetic of words. -/
def wordBelow (width first second : UInt64) : UInt64 :=
  let low := first * width
  if 0 - width < low ∧ UInt64.size ≤ low.toNat + (highHalf second width).toNat then highHalf first width + 1
  else highHalf first width

/-- The draw between two bounds in the arithmetic of words: the width of the range of all signed words is zero. -/
def wordBetween (low high : Int64) (first second : UInt64) : Int64 :=
  let width := (high - low + 1).toUInt64
  if width = 0 then first.toInt64 else low + (wordBelow width first second).toInt64

theorem toNat_highHalf (x y : UInt64) : (highHalf x y).toNat = x.toNat * y.toNat / UInt64.size := by
  apply UInt64.toNat_ofNat_of_lt
  apply Nat.div_lt_of_lt_mul
  exact Nat.mul_lt_mul'' x.toNat_lt_size y.toNat_lt_size

theorem toNat_zero_sub {width : UInt64} (h : width ≠ 0) : (0 - width).toNat = UInt64.size - width.toNat := by
  have hpos : width.toNat ≠ 0 := fun hzero => h (UInt64.toNat_inj.1 hzero)
  have hlt := width.toNat_lt_size
  rw [UInt64.toNat_sub, UInt64.toNat_zero]
  simp only [UInt64.size] at *
  omega

/-- Raising the high half by one does not wrap around. -/
theorem toNat_wordBelow {width : UInt64} (h : width ≠ 0) (first second : UInt64) :
    (wordBelow width first second).toNat = wideningProduct width.toNat first second := by
  have hpos : 0 < width.toNat := Nat.pos_of_ne_zero fun hzero => h (UInt64.toNat_inj.1 hzero)
  have hlt := wideningProduct_lt hpos (Nat.le_of_lt width.toNat_lt_size) first second
  have hcondition : (0 - width < first * width ∧
        UInt64.size ≤ (first * width).toNat + (highHalf second width).toNat) ↔
      UInt64.size - width.toNat < first.toNat * width.toNat % UInt64.size ∧
        UInt64.size ≤ first.toNat * width.toNat % UInt64.size + second.toNat * width.toNat / UInt64.size := by
    rw [UInt64.lt_iff_toNat_lt, toNat_zero_sub h, toNat_highHalf, UInt64.toNat_mul]
  unfold wideningProduct at hlt ⊢
  unfold wordBelow
  dsimp only at hlt ⊢
  simp only [hcondition]
  split
  · rename_i hcarry
    rw [if_pos hcarry] at hlt
    rw [UInt64.toNat_add, toNat_highHalf]
    apply Nat.mod_eq_of_lt
    exact Nat.lt_trans hlt width.toNat_lt_size
  · exact toNat_highHalf first width

theorem toInt_toInt64 (word : UInt64) : word.toInt64.toInt = signedWord word :=
  BitVec.toInt_eq_toNat_bmod _

theorem toNat_toUInt64 (number : Int64) : (number.toUInt64.toNat : Int) = number.toInt % UInt64.size := by
  have hlt : (number.toUInt64.toNat : Int) < UInt64.size := Int.ofNat_lt.2 number.toUInt64.toNat_lt_size
  have htoInt : number.toInt = (number.toUInt64.toNat : Int).bmod UInt64.size := BitVec.toInt_eq_toNat_bmod _
  rw [htoInt, Int.bmod_emod, Int.emod_eq_of_lt (Int.natCast_nonneg _) hlt]

/-- The number of values between two signed words wraps around only for the range of all of them. -/
theorem toNat_wordWidth {low high : Int64} (h : low ≤ high) :
    (high - low + 1).toUInt64.toNat = (high.toInt - low.toInt + 1).toNat % UInt64.size := by
  have hle := Int64.le_iff_toInt_le.1 h
  have hwidth : ((high - low + 1).toUInt64.toNat : Int) = (high.toInt - low.toInt + 1) % UInt64.size := by
    rw [toNat_toUInt64, Int64.toInt_add, Int64.toInt_sub, Int64.toInt_one, Int.bmod_add_bmod]
    exact Int.bmod_emod
  have hnonneg : 0 ≤ high.toInt - low.toInt + 1 := by omega
  rw [← Int.toNat_of_nonneg hnonneg] at hwidth
  exact_mod_cast hwidth

/-- **The machine draws the exact number.** -/
theorem toInt_wordBetween {low high : Int64} (h : low ≤ high) (first second : UInt64) :
    (wordBetween low high first second).toInt = numberBetween low.toInt high.toInt first second := by
  have hle := Int64.le_iff_toInt_le.1 h
  have hlow := low.le_toInt
  have hhigh := high.toInt_lt
  have hwidth := toNat_wordWidth h
  unfold wordBetween numberBetween
  dsimp only
  by_cases hwhole : (high.toInt - low.toInt + 1).toNat = UInt64.size
  · have hzero : (high - low + 1).toUInt64 = 0 := by
      apply UInt64.toNat_inj.1
      rw [hwidth, hwhole]
      rfl
    rw [if_pos hzero, if_pos hwhole, toInt_toInt64]
  · have hlt : (high.toInt - low.toInt + 1).toNat < UInt64.size := by
      simp only [UInt64.size] at *
      omega
    rw [Nat.mod_eq_of_lt hlt] at hwidth
    have hnonzero : (high - low + 1).toUInt64 ≠ 0 := by
      intro hzero
      rw [hzero] at hwidth
      have : (0 : UInt64).toNat = 0 := rfl
      omega
    rw [if_neg hnonzero, if_neg hwhole, ← hwidth, ← toNat_wordBelow hnonzero]
    have hoffset := wideningProduct_lt (by omega) (Nat.le_of_lt hlt) first second
    rw [← hwidth, ← toNat_wordBelow hnonzero, hwidth] at hoffset
    generalize wordBelow (high - low + 1).toUInt64 first second = offset at *
    calc (low + offset.toInt64).toInt
      _ = (low.toInt + signedWord offset).bmod UInt64.size := by rw [Int64.toInt_add, toInt_toInt64]
      _ = (low.toInt + offset.toNat).bmod UInt64.size := Int.add_bmod_bmod
      _ = low.toInt + offset.toNat := by
        apply Int.bmod_eq_of_le <;> simp only [UInt64.size] <;> omega

end QueryVariants.Random
