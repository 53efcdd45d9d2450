import QueryVariants.Proofs.Calendar

/-!
# Day numbers in calendar order

Dates are ordered by year, month and day. Numbering them by consecutive integers keeps this order: a day ends
where the next begins, a month where the next month begins, and a year where the next year begins. So the number
of a date determines it, and conversely every number of the range is the number of a date, which is found by
its year and its place in the year. The two directions make the numbering an isomorphism of orders between
the dates that there are and an interval of integers.
-/

namespace QueryVariants

namespace Calendar

/-- The months up to one of them end before the next month begins. -/
theorem take_add_getD_le_take (lengths : List Nat) {i j : Nat} (h : i < j) :
    (lengths.take i).foldr (· + ·) 0 + lengths.getD i 0 ≤ (lengths.take j).foldr (· + ·) 0 := by
  have hprefix := take_add_getD_le (lengths.take j) i
  have htake : (lengths.take j).take i = lengths.take i := by
    rw [List.take_take, Nat.min_eq_left (Nat.le_of_lt h)]
  have hget : (lengths.take j).getD i 0 = lengths.getD i 0 := by
    simp [List.getD_eq_getElem?_getD, h]
  rwa [htake, hget] at hprefix

/-- The place in a run of months that an offset falls on. -/
theorem monthOfOffset_spec {lengths : List Nat} {offset : Nat} (h : offset < lengths.foldr (· + ·) 0) :
    1 ≤ (monthOfOffset lengths offset).1 ∧ (monthOfOffset lengths offset).1 ≤ lengths.length ∧
      1 ≤ (monthOfOffset lengths offset).2 ∧
      (monthOfOffset lengths offset).2 ≤ lengths.getD ((monthOfOffset lengths offset).1 - 1) 0 ∧
      (lengths.take ((monthOfOffset lengths offset).1 - 1)).foldr (· + ·) 0 + (monthOfOffset lengths offset).2 =
        offset + 1 := by
  induction lengths generalizing offset with
  | nil => exact absurd h (Nat.not_lt_zero offset)
  | cons length lengths ih =>
      rw [List.foldr_cons] at h
      rw [monthOfOffset]
      split
      · rename_i hfirst
        simp only [Nat.sub_self, List.getD_cons_zero, List.take_zero, List.foldr_nil, List.length_cons]
        omega
      · have hrest : offset - length < lengths.foldr (· + ·) 0 := by omega
        obtain ⟨hmonth, hmonths, hday, hlength, hsum⟩ := ih hrest
        obtain ⟨month, hnext⟩ := Nat.exists_eq_add_of_le' hmonth
        rw [hnext, Nat.add_sub_cancel] at hlength hsum
        dsimp only
        rw [hnext] at hmonths ⊢
        simp only [Nat.add_sub_cancel, List.getD_cons_succ, List.take_succ_cons, List.foldr_cons, List.length_cons]
        omega

/-- The year of a day is the one between whose start and the start of the next the day lies. -/
theorem yearStart_yearOfDay (number : Int) :
    yearStart (yearOfDay number) ≤ number ∧ number < yearStart (yearOfDay number + 1) := by
  unfold yearOfDay
  dsimp only
  split
  · rename_i hlow
    unfold yearStart at *
    dsimp only at *
    omega
  · split
    · rename_i hlow hhigh
      unfold yearStart at *
      dsimp only at *
      omega
    · rename_i hlow hhigh
      exact ⟨Int.not_lt.1 hlow, Int.not_le.1 hhigh⟩

end Calendar

namespace Date

open Calendar

/-- Calendar order: by year, then by month, then by day. -/
instance : LT Date :=
  ⟨fun date other => date.year < other.year ∨ date.year = other.year ∧
    (date.month < other.month ∨ date.month = other.month ∧ date.day < other.day)⟩

/-- A date is at most another if the other does not come before it. -/
instance : LE Date :=
  ⟨fun date other => ¬other < date⟩

instance (date other : Date) : Decidable (date < other) :=
  inferInstanceAs (Decidable (date.year < other.year ∨ date.year = other.year ∧
    (date.month < other.month ∨ date.month = other.month ∧ date.day < other.day)))

instance (date other : Date) : Decidable (date ≤ other) :=
  inferInstanceAs (Decidable ¬other < date)

section

variable {date other : Date} {number : Int}

theorem lt_iff : date < other ↔ date.year < other.year ∨ date.year = other.year ∧
    (date.month < other.month ∨ date.month = other.month ∧ date.day < other.day) := Iff.rfl

theorem eq_of_not_lt (h : ¬date < other) (hother : ¬other < date) : date = other := by
  obtain ⟨year, month, day⟩ := date
  obtain ⟨year', month', day'⟩ := other
  simp only [lt_iff] at h hother
  obtain rfl : year = year' := by omega
  obtain rfl : month = month' := by omega
  obtain rfl : day = day' := by omega
  rfl

/-- Later dates have greater numbers. -/
theorem dayNumber_lt_dayNumber (hdate : date.Valid) (hother : other.Valid) (h : date < other) :
    date.dayNumber < other.dayNumber := by
  rcases h with hyear | ⟨hyear, hmonth | ⟨hmonth, hday⟩⟩
  · calc date.dayNumber
      _ < yearStart (date.year + 1) := (dayNumber_bounds hdate).2
      _ ≤ yearStart other.year := yearStart_mono hyear
      _ ≤ other.dayNumber := (dayNumber_bounds hother).1
  · obtain ⟨-, -, hfirst, -, -, hlength⟩ := hdate
    obtain ⟨-, -, -, -, hday, -⟩ := hother
    have hindex : date.month - 1 < other.month - 1 := by omega
    have hmonths := take_add_getD_le_take (monthLengths date.year) hindex
    unfold dayNumber
    rw [← hyear]
    dsimp only
    omega
  · unfold dayNumber
    rw [← hyear, ← hmonth]
    dsimp only
    omega

theorem dayNumber_lt_iff (hdate : date.Valid) (hother : other.Valid) :
    date.dayNumber < other.dayNumber ↔ date < other := by
  refine ⟨fun hlt => ?_, dayNumber_lt_dayNumber hdate hother⟩
  by_cases hback : other < date
  · exact absurd (dayNumber_lt_dayNumber hother hdate hback) (Int.lt_asymm hlt)
  · by_cases hforth : date < other
    · exact hforth
    · rw [eq_of_not_lt hforth hback] at hlt
      exact absurd hlt (Int.lt_irrefl _)

theorem dayNumber_le_iff (hdate : date.Valid) (hother : other.Valid) :
    date.dayNumber ≤ other.dayNumber ↔ date ≤ other := by
  rw [← Int.not_lt, dayNumber_lt_iff hother hdate]
  rfl

/-- A date is determined by its number. -/
theorem dayNumber_inj (hdate : date.Valid) (hother : other.Valid) (h : date.dayNumber = other.dayNumber) :
    date = other := by
  apply eq_of_not_lt
  · rw [← dayNumber_lt_iff hdate hother, h]
    exact Int.lt_irrefl _
  · rw [← dayNumber_lt_iff hother hdate, h]
    exact Int.lt_irrefl _

/-! ### From numbers to dates -/

/-- The place of a day in its year. -/
theorem ofDayNumber_spec (number : Int) :
    (ofDayNumber number).year = yearOfDay number ∧ 1 ≤ (ofDayNumber number).month ∧
      (ofDayNumber number).month ≤ 12 ∧ 1 ≤ (ofDayNumber number).day ∧
      (ofDayNumber number).day ≤ (monthLengths (yearOfDay number)).getD ((ofDayNumber number).month - 1) 0 ∧
      (ofDayNumber number).dayNumber = number := by
  obtain ⟨hstart, hend⟩ := yearStart_yearOfDay number
  rw [yearStart_succ] at hend
  have hoffset : (number - yearStart (yearOfDay number)).toNat <
      (monthLengths (yearOfDay number)).foldr (· + ·) 0 := by omega
  obtain ⟨hmonth, hmonths, hday, hlength, hsum⟩ := monthOfOffset_spec hoffset
  refine ⟨rfl, hmonth, hmonths, hday, hlength, ?_⟩
  unfold dayNumber ofDayNumber
  dsimp only at *
  omega

theorem dayNumber_ofDayNumber (number : Int) : (ofDayNumber number).dayNumber = number :=
  (ofDayNumber_spec number).2.2.2.2.2

/-- Every number between those of the first and the last date belongs to a date. -/
theorem valid_ofDayNumber (hfirst : first.dayNumber ≤ number) (hlast : number ≤ last.dayNumber) :
    (ofDayNumber number).Valid := by
  obtain ⟨hyear, hmonth, hmonths, hday, hlength, -⟩ := ofDayNumber_spec number
  obtain ⟨hstart, hend⟩ := yearStart_yearOfDay number
  have hlow : -262143 ≤ yearOfDay number := by
    apply Int.not_lt.1
    intro hbefore
    have hmono : yearStart (yearOfDay number + 1) ≤ yearStart (-262143) := yearStart_mono (by omega)
    have hnumber : first.dayNumber = yearStart (-262143) := by decide
    omega
  have hhigh : yearOfDay number ≤ 262142 := by
    apply Int.not_lt.1
    intro hafter
    have hmono : yearStart 262143 ≤ yearStart (yearOfDay number) := yearStart_mono (by omega)
    have hnumber : last.dayNumber = yearStart 262143 - 1 := by decide
    omega
  rw [← hyear] at hlow hhigh hlength
  exact ⟨hlow, hhigh, hmonth, hmonths, hday, hlength⟩

theorem ofDayNumber_dayNumber (h : date.Valid) : ofDayNumber date.dayNumber = date := by
  obtain ⟨hfirst, hlast⟩ := dayNumber_range h
  exact dayNumber_inj (valid_ofDayNumber hfirst hlast) h (dayNumber_ofDayNumber date.dayNumber)

end

end Date

end QueryVariants
