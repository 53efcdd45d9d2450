import QueryVariants.Proofs.Text.Cut
import QueryVariants.Proofs.Text.Numeral

/-!
# Integers and padded numerals as they are written

An integer is written with a minus sign if it is negative, and the text is read back as that integer. Zeros in
front of a numeral do not change its value, and a number below a power of ten fills a numeral of that width
exactly, so that a reader of fixed width takes all of its digits and no more.
-/

namespace QueryVariants.Text

section

variable {n : Int}

theorem toList_toString (n : Int) :
    (toString n).toList = if 0 ≤ n then natDigits n.toNat else '-' :: natDigits n.natAbs := by
  rw [Int.toString_eq_repr, Int.repr_eq_if]
  split
  · exact Nat.toList_repr
  · have habs : (-n).toNat = n.natAbs := by omega
    rw [String.toList_append, Nat.toList_repr, habs]
    rfl

theorem trimmed_toString (n : Int) : Trimmed (toString n).toList := by
  have hdigits : ∀ m, Trimmed (natDigits m) := fun m =>
    .of_isDigit natDigits_ne_nil fun _ => isDigit_of_mem_natDigits
  rw [toList_toString]
  split
  · exact hdigits _
  · exact (Trimmed.singleton (by decide)).append (hdigits _)

/-- The text of a signed number of 64 bits is a numeral of it. -/
theorem denotes_toString (hlow : -(maxSigned + 1 : Int) ≤ n) (hhigh : n ≤ maxSigned) :
    Denotes (toString n).toList n := by
  refine ⟨hlow, hhigh, natDigits n.natAbs, natDigits_ne_nil, fun _ => isDigit_of_mem_natDigits, ?_⟩
  rw [toList_toString, digitsValue_natDigits]
  split
  · exact .inl ⟨.inl (by congr 1; omega), by omega⟩
  · exact .inr ⟨rfl, by omega⟩

end

section

variable {width n : Nat} {c : Char} {s : List Char}

theorem isDigit_of_mem_paddedDigits (h : c ∈ paddedDigits width n) : c.isDigit = true := by
  rcases List.mem_append.1 h with h | h
  · rw [List.eq_of_mem_replicate h]
    rfl
  · exact isDigit_of_mem_natDigits h

theorem paddedDigits_ne_nil : paddedDigits width n ≠ [] :=
  List.append_ne_nil_of_right_ne_nil _ natDigits_ne_nil

/-- Zeros in front do not count. -/
theorem digitsValue_replicate_append (zeros : Nat) (s : List Char) :
    digitsValue (List.replicate zeros '0' ++ s) = digitsValue s := by
  induction zeros with
  | zero => rfl
  | succ zeros ih => exact ih

theorem digitsValue_paddedDigits : digitsValue (paddedDigits width n) = n := by
  rw [paddedDigits, digitsValue_replicate_append, digitsValue_natDigits]

/-- A number with no more digits than the width fills it. -/
theorem length_paddedDigits (h : (natDigits n).length ≤ width) : (paddedDigits width n).length = width := by
  rw [paddedDigits, List.length_append, List.length_replicate]
  omega

end

end QueryVariants.Text
