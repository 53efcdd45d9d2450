import QueryVariants.Calendar

/-!
# The range of the days

The days of a year are numbered from the start of the year up to the start of the next one, so the numbers
of all dates lie between those of the first date and of the last date that there is.
-/

namespace QueryVariants

namespace Calendar

/-- A year is as long as its months together. -/
theorem yearStart_succ (year : Int) :
    yearStart (year + 1) = yearStart year + ((monthLengths year).foldr (· + ·) 0 : Nat) := by
  have hleap : isLeapYear year = true ↔ year % 4 = 0 ∧ (year % 100 ≠ 0 ∨ year % 400 = 0) := by
    simp [isLeapYear]
  unfold yearStart monthLengths
  dsimp only
  cases h : isLeapYear year with
  | true =>
      have hyear := hleap.1 h
      simp only [if_true, List.foldr_cons, List.foldr_nil]
      omega
  | false =>
      have hyear : ¬(year % 4 = 0 ∧ (year % 100 ≠ 0 ∨ year % 400 = 0)) := by
        rw [← hleap, h]
        exact Bool.false_ne_true
      simp only [Bool.false_eq_true, if_false, List.foldr_cons, List.foldr_nil]
      omega

theorem yearStart_mono {first second : Int} (h : first ≤ second) : yearStart first ≤ yearStart second := by
  unfold yearStart
  dsimp only
  omega

/-- A month ends within the year. -/
theorem take_add_getD_le (lengths : List Nat) (i : Nat) :
    (lengths.take i).foldr (· + ·) 0 + lengths.getD i 0 ≤ lengths.foldr (· + ·) 0 := by
  induction lengths generalizing i with
  | nil => simp
  | cons length lengths ih =>
      cases i with
      | zero => simp
      | succ i =>
          have hrest := ih i
          simp only [List.take_succ_cons, List.foldr_cons, List.getD_cons_succ]
          omega

end Calendar

namespace Date

open Calendar

theorem dayNumber_bounds {date : Date} (h : date.Valid) :
    yearStart date.year ≤ date.dayNumber ∧ date.dayNumber < yearStart (date.year + 1) := by
  obtain ⟨-, -, -, -, hday, hlength⟩ := h
  have hmonth := take_add_getD_le (monthLengths date.year) (date.month - 1)
  rw [yearStart_succ]
  unfold dayNumber
  dsimp only
  omega

/-- The number of every date is between those of the first date and of the last. -/
theorem dayNumber_range {date : Date} (h : date.Valid) :
    first.dayNumber ≤ date.dayNumber ∧ date.dayNumber ≤ last.dayNumber := by
  have hbounds := dayNumber_bounds h
  have hlow : yearStart (-262143) ≤ yearStart date.year := yearStart_mono h.1
  have hhigh : yearStart (date.year + 1) ≤ yearStart 262143 := yearStart_mono (Int.add_le_add_right h.2.1 1)
  have hfirst : first.dayNumber = yearStart (-262143) := by decide
  have hlast : last.dayNumber = yearStart 262143 - 1 := by decide
  omega

/-- The days between two dates can be counted in 64 bits. -/
theorem dayNumber_sub_le {low high : Date} (hlow : low.Valid) (hhigh : high.Valid) :
    high.dayNumber - low.dayNumber ≤ Text.maxSigned := by
  have hdays : last.dayNumber - first.dayNumber ≤ Text.maxSigned := by decide
  have hleast := (dayNumber_range hlow).1
  have hmost := (dayNumber_range hhigh).2
  omega

theorem valid_of_read? {s : List Char} {date : Date} (h : read? s = some date) : date.Valid := by
  simp only [read?, Option.bind_eq_bind, Option.bind_eq_some_iff] at h
  obtain ⟨_, -, _, -, _, -, _, -, _, -, h⟩ := h
  split at h
  · rename_i hvalid
    obtain rfl := Option.some.inj h
    simpa using (Bool.and_eq_true_iff.1 hvalid).2
  · cases h

end Date

end QueryVariants
