import QueryVariants.Proofs.Calendar
import QueryVariants.Proofs.Text.Padding

/-!
# Dates read back

The written form of a date is read as that date, over all years: four digits without a sign up to the year 9999,
and a sign with at least four digits outside. The reader of a field of fixed width stops after its digits, the
reader of a signed year at the hyphen behind it.
-/

namespace QueryVariants.Date

open Text

section

variable {most : Nat} {digits rest : List Char} {year : Int}

theorem trimStart_digits (hne : digits ≠ []) (hdigits : ∀ c ∈ digits, c.isDigit = true) :
    trimStart (digits ++ rest) = digits ++ rest := by
  obtain ⟨c, hc, hblank⟩ := (Trimmed.of_isDigit hne hdigits).head
  exact dropWhile_isBlank ⟨c, by rw [List.head?_append, hc, Option.some_or], hblank⟩

/-- A field that is filled with digits is read to its end and no further. -/
theorem readField?_digits (hne : digits ≠ []) (hdigits : ∀ c ∈ digits, c.isDigit = true)
    (hlength : digits.length = most) : readField? most (digits ++ rest) = some (digitsValue digits, rest) := by
  have htake : (digits ++ rest).take most = digits := by rw [← hlength, List.take_left]
  have hall : digits.takeWhile Char.isDigit = digits := by
    simpa using @List.takeWhile_append_of_pos _ Char.isDigit digits [] hdigits
  have hempty : digits.isEmpty = false := List.isEmpty_eq_false_iff.2 hne
  unfold readField?
  dsimp only
  rw [trimStart_digits hne hdigits, htake, hall, hempty, List.drop_left]
  rfl

theorem readField?_paddedDigits {width n : Nat} (h : (natDigits n).length ≤ width) (rest : List Char) :
    readField? width (paddedDigits width n ++ rest) = some (n, rest) := by
  rw [readField?_digits paddedDigits_ne_nil (fun _ => isDigit_of_mem_paddedDigits) (length_paddedDigits h),
    digitsValue_paddedDigits]

/-- The digits after a sign are read up to the hyphen. -/
theorem signed_paddedDigits (width n : Nat) (rest : List Char) :
    readYear?.signed (paddedDigits width n ++ '-' :: rest) = some (n, '-' :: rest) := by
  have hdigits : ∀ c ∈ paddedDigits width n, c.isDigit = true := fun _ => isDigit_of_mem_paddedDigits
  have htake : (paddedDigits width n ++ '-' :: rest).takeWhile Char.isDigit = paddedDigits width n := by
    rw [List.takeWhile_append_of_pos hdigits, List.takeWhile_cons_of_neg (by decide), List.append_nil]
  have hempty : (paddedDigits width n).isEmpty = false := List.isEmpty_eq_false_iff.2 paddedDigits_ne_nil
  unfold readYear?.signed
  dsimp only
  rw [htake, hempty, digitsValue_paddedDigits, List.drop_left]
  rfl

/-- The hyphen behind a year is no part of it. -/
theorem readYear?_yearDigits (year : Int) (rest : List Char) :
    readYear? (yearDigits year ++ '-' :: rest) = some (year, '-' :: rest) := by
  unfold yearDigits
  split
  · have hstart : trimStart ('-' :: paddedDigits 4 year.natAbs ++ '-' :: rest) =
        '-' :: (paddedDigits 4 year.natAbs ++ '-' :: rest) := dropWhile_isBlank ⟨'-', rfl, by decide⟩
    have habs : -(year.natAbs : Int) = year := by omega
    rw [readYear?, hstart]
    simp only [signed_paddedDigits, Option.map_some, habs]
  · have habs : (year.natAbs : Int) = year := by omega
    split
    · have hstart : trimStart ('+' :: paddedDigits 4 year.natAbs ++ '-' :: rest) =
          '+' :: (paddedDigits 4 year.natAbs ++ '-' :: rest) := dropWhile_isBlank ⟨'+', rfl, by decide⟩
      rw [readYear?, hstart]
      simp only [signed_paddedDigits, Option.map_some, habs]
    · have hlength : (natDigits year.natAbs).length ≤ 4 :=
        (Nat.length_toDigits_le_iff (by decide) (by decide)).2 (by omega)
      have hdigits : ∀ c ∈ paddedDigits 4 year.natAbs, c.isDigit = true := fun _ => isDigit_of_mem_paddedDigits
      have hne : paddedDigits 4 year.natAbs ≠ [] := paddedDigits_ne_nil
      have hread := readField?_paddedDigits hlength ('-' :: rest)
      obtain ⟨c, digits, hcons⟩ := List.exists_cons_of_ne_nil hne
      have hc : c.isDigit = true := hdigits c (by rw [hcons]; exact List.mem_cons_self)
      rw [readYear?, trimStart_digits hne hdigits, hcons]
      rw [hcons] at hread
      -- A digit is no sign, so the year is read as a field.
      have hsign : ∀ sign tail, Char.isDigit sign = false → c :: digits ++ '-' :: rest ≠ sign :: tail := by
        intro sign tail hsign heq
        rw [← (List.cons.inj heq).1, hc] at hsign
        cases hsign
      split
      · rename_i heq
        exact absurd heq (hsign _ _ rfl)
      · rename_i heq
        exact absurd heq (hsign _ _ rfl)
      · rw [hread, Option.map_some]
        simp only [habs]

end

section

variable {date : Date}

theorem length_natDigits_le {n : Nat} (h : n < 100) : (natDigits n).length ≤ 2 :=
  (Nat.length_toDigits_le_iff (by decide) (by decide)).2 h

theorem Valid.day_le (h : date.Valid) : date.day ≤ 31 := by
  have hlengths : ∀ length ∈ Calendar.monthLengths date.year, length ≤ 31 := by
    unfold Calendar.monthLengths
    split <;> decide
  have hlength := h.2.2.2.2.2
  rw [List.getD_eq_getElem?_getD] at hlength
  rcases hget : (Calendar.monthLengths date.year)[date.month - 1]? with _ | length
  · rw [hget, Option.getD_none] at hlength
    omega
  · rw [hget, Option.getD_some] at hlength
    exact Nat.le_trans hlength (hlengths length (List.mem_of_getElem? hget))

/-- The written form of a date has no blanks at its ends. -/
theorem trimmed_chars (date : Date) : Trimmed date.chars := by
  have hdigits : ∀ width n, Trimmed (paddedDigits width n) := fun width n =>
    .of_isDigit paddedDigits_ne_nil fun _ => isDigit_of_mem_paddedDigits
  have hbehind : ∀ sign width n, Text.isBlank sign = false → Trimmed (sign :: paddedDigits width n) :=
    fun sign width n hsign => (Trimmed.singleton hsign).append (hdigits width n)
  have hyear : Trimmed (yearDigits date.year) := by
    unfold yearDigits
    split
    · exact hbehind '-' 4 _ rfl
    · split
      · exact hbehind '+' 4 _ rfl
      · exact hdigits 4 _
  exact (hyear.append (hbehind '-' 2 date.month rfl)).append (hbehind '-' 2 date.day rfl)

/-- **Dates are read back.** -/
theorem read?_chars (h : date.Valid) : read? date.chars = some date := by
  have hmonth : (natDigits date.month).length ≤ 2 := length_natDigits_le (by have := h.2.2.2.1; omega)
  have hday : (natDigits date.day).length ≤ 2 := length_natDigits_le (by have := h.day_le; omega)
  have hchars : date.chars = yearDigits date.year ++ '-' :: (paddedDigits 2 date.month ++
      '-' :: (paddedDigits 2 date.day ++ [])) := by
    simp [chars]
  rw [read?, (trimmed_chars date).trim_eq, hchars, readYear?_yearDigits]
  simp only [Option.bind_eq_bind, Option.bind_some, readHyphen?, readField?_paddedDigits hmonth,
    readField?_paddedDigits hday]
  rw [if_pos (by simp [h])]

end

end QueryVariants.Date
