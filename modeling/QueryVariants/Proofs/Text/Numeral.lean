import QueryVariants.Text.Numeral

/-!
# Numerals read back

The decimal digits of a number are read as that number by every reader whose range it is in. What else is
needed of them is that they are digits, so that they bear no sign.
-/

namespace QueryVariants.Text

section

variable {n : Nat} {c : Char} {s : List Char}

theorem isDigit_of_mem_natDigits (h : c ∈ natDigits n) : c.isDigit = true :=
  Nat.isDigit_of_mem_toDigits (by decide) (by decide) h

theorem natDigits_ne_nil : natDigits n ≠ [] :=
  Nat.toDigits_ne_nil

theorem digitsValue_natDigits : digitsValue (natDigits n) = n :=
  Nat.ofDigitChars_ten_toDigits

theorem readNat?_natDigits : readNat? (natDigits n) = some n := by
  have hdigits : (natDigits n).all Char.isDigit = true :=
    List.all_eq_true.2 fun _ => isDigit_of_mem_natDigits
  have hempty : (natDigits n).isEmpty = false := List.isEmpty_eq_false_iff.2 natDigits_ne_nil
  rw [readNat?, hdigits, hempty, digitsValue_natDigits]
  rfl

/-- Digits begin with a digit, so no sign is read off them. -/
theorem exists_natDigits_eq_cons (n : Nat) :
    ∃ c rest, natDigits n = c :: rest ∧ c ≠ '+' ∧ c ≠ '-' := by
  obtain ⟨c, rest, h⟩ := List.exists_cons_of_ne_nil (natDigits_ne_nil (n := n))
  have hdigit : c.isDigit = true := isDigit_of_mem_natDigits (n := n) (by simp [h])
  refine ⟨c, rest, h, ?_, ?_⟩
  · rintro rfl
    exact absurd hdigit (by decide)
  · rintro rfl
    exact absurd hdigit (by decide)

theorem readUnsigned?_natDigits (h : n < UInt64.size) : readUnsigned? (natDigits n) = some n := by
  obtain ⟨c, rest, hdigits, hplus, -⟩ := exists_natDigits_eq_cons n
  have hread : readNat? (c :: rest) = some n := hdigits ▸ readNat?_natDigits
  rw [hdigits, readUnsigned?]
  · rw [hread, Option.filter_some, if_pos (by simpa using h)]
  · intro tail heq
    exact hplus (List.cons.inj heq).1

theorem readSigned?_natDigits (h : n ≤ maxSigned) : readSigned? (natDigits n) = some (n : Int) := by
  obtain ⟨c, rest, hdigits, hplus, hminus⟩ := exists_natDigits_eq_cons n
  have hread : readNat? (c :: rest) = some n := hdigits ▸ readNat?_natDigits
  rw [hdigits, readSigned?]
  · rw [hread, Option.filter_some, if_pos (by simpa using h)]
    rfl
  · intro tail heq
    exact hminus (List.cons.inj heq).1
  · intro tail heq
    exact hplus (List.cons.inj heq).1

end

/-- A decimal numeral of a signed number of 64 bits: digits with an optional sign in front. -/
def Denotes (s : List Char) (n : Int) : Prop :=
  -(maxSigned + 1 : Int) ≤ n ∧ n ≤ maxSigned ∧
    ∃ digits, digits ≠ [] ∧ (∀ c ∈ digits, c.isDigit = true) ∧
      ((s = digits ∨ s = '+' :: digits) ∧ n = digitsValue digits ∨
        s = '-' :: digits ∧ n = -(digitsValue digits : Int))

theorem readNat?_eq_some_iff {s : List Char} {n : Nat} :
    readNat? s = some n ↔ s ≠ [] ∧ (∀ c ∈ s, c.isDigit = true) ∧ n = digitsValue s := by
  rw [readNat?]
  by_cases hs : s = []
  · simp [hs]
  · simp [hs, eq_comm (a := n)]

/-- The reader of signed numbers reads the numerals of 64 bits. -/
theorem readSigned?_eq_some_iff {s : List Char} {n : Int} : readSigned? s = some n ↔ Denotes s n := by
  constructor
  · intro h
    unfold readSigned? at h
    split at h
    all_goals
      obtain ⟨_, hbind, rfl⟩ := Option.map_eq_some_iff.1 h
      obtain ⟨m, hm, heq⟩ := Option.bind_eq_some_iff.1 hbind
      obtain rfl := Option.some.inj heq
      obtain ⟨hread, hle⟩ := Option.filter_eq_some_iff.1 hm
      obtain ⟨hne, hdigits, rfl⟩ := readNat?_eq_some_iff.1 hread
      rw [decide_eq_true_iff] at hle
    · exact ⟨by omega, by omega, _, hne, hdigits, .inr ⟨rfl, rfl⟩⟩
    · exact ⟨by omega, by omega, _, hne, hdigits, .inl ⟨.inr rfl, rfl⟩⟩
    · exact ⟨by omega, by omega, _, hne, hdigits, .inl ⟨.inl rfl, rfl⟩⟩
  · rintro ⟨hlow, hhigh, digits, hne, hdigits, ⟨rfl | rfl, rfl⟩ | ⟨rfl, rfl⟩⟩
    all_goals have hread := readNat?_eq_some_iff.2 ⟨hne, hdigits, rfl⟩
    · rw [readSigned?, hread, Option.filter_some, if_pos (by rw [decide_eq_true_iff]; omega)]
      · rfl
      · rintro rest rfl
        exact absurd (hdigits '-' List.mem_cons_self) (by decide)
      · rintro rest rfl
        exact absurd (hdigits '+' List.mem_cons_self) (by decide)
    · rw [readSigned?, hread, Option.filter_some, if_pos (by rw [decide_eq_true_iff]; omega)]
      rfl
    · rw [readSigned?, hread, Option.filter_some, if_pos (by rw [decide_eq_true_iff]; omega)]
      rfl

theorem Denotes.unique {s : List Char} {m n : Int} (hm : Denotes s m) (hn : Denotes s n) : m = n :=
  Option.some.inj ((readSigned?_eq_some_iff.2 hm).symm.trans (readSigned?_eq_some_iff.2 hn))

/-- What is read as an integer is a signed number of 64 bits. -/
theorem readSigned?_bounds {s : List Char} {n : Int} (h : readSigned? s = some n) :
    -(maxSigned + 1 : Int) ≤ n ∧ n ≤ maxSigned :=
  have hdenotes := readSigned?_eq_some_iff.1 h
  ⟨hdenotes.1, hdenotes.2.1⟩

end QueryVariants.Text
