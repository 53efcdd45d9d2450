import QueryVariants.Text.Blank

/-!
# Cutting texts

Readers cut a text at the first place of a character, and blanks off both ends. Where the place is known
the cut can be computed.
-/

namespace QueryVariants.Text

section

variable {c : Char} {s : List Char}

theorem forall_ne_of_notMem (hs : c ∉ s) : ∀ d ∈ s, decide (d ≠ c) = true := by
  intro d hd
  have hne : d ≠ c := by
    rintro rfl
    exact hs hd
  simpa using hne

theorem takeWhile_ne_append_cons (rest : List Char) (hs : c ∉ s) : (s ++ c :: rest).takeWhile (· ≠ c) = s := by
  rw [List.takeWhile_append_of_pos (forall_ne_of_notMem hs)]
  simp

theorem dropWhile_ne_append_cons (rest : List Char) (hs : c ∉ s) :
    (s ++ c :: rest).dropWhile (· ≠ c) = c :: rest := by
  rw [List.dropWhile_append_of_pos (forall_ne_of_notMem hs)]
  simp

/-- A text can be cut at the first place of a character in one way only. -/
theorem append_cons_inj_of_notMem {other rest rest' : List Char} (hs : c ∉ s) (hother : c ∉ other)
    (h : s ++ c :: rest = other ++ c :: rest') : s = other ∧ rest = rest' := by
  constructor
  · rw [← takeWhile_ne_append_cons rest hs, h, takeWhile_ne_append_cons rest' hother]
  · have hrest : c :: rest = c :: rest' := by
      rw [← dropWhile_ne_append_cons rest hs, h, dropWhile_ne_append_cons rest' hother]
    exact (List.cons.inj hrest).2

end

theorem isBlank_of_isAlphanum {c : Char} (h : c.isAlphanum = true) : isBlank c = false := by
  have hclass : (decide ('A'.toNat ≤ c.toNat ∧ c.toNat ≤ 'Z'.toNat) ||
      decide ('a'.toNat ≤ c.toNat) && decide (c.toNat ≤ 'z'.toNat) ||
      decide ('0'.toNat ≤ c.toNat) && decide (c.toNat ≤ '9'.toNat)) = true := h
  have hcode : (65 ≤ c.toNat ∧ c.toNat ≤ 90 ∨ 97 ≤ c.toNat ∧ c.toNat ≤ 122) ∨
      48 ≤ c.toNat ∧ c.toNat ≤ 57 := by
    simpa using hclass
  simp only [isBlank, Bool.or_eq_false_iff, Bool.and_eq_false_iff, decide_eq_false_iff_not,
    beq_eq_false_iff_ne]
  omega

theorem mem_of_mem_trim {c : Char} {s : List Char} (h : c ∈ trim s) : c ∈ s := by
  rw [trim, trimEnd, List.mem_reverse] at h
  have hstart := (List.dropWhile_sublist isBlank).subset h
  rw [List.mem_reverse] at hstart
  exact (List.dropWhile_sublist isBlank).subset hstart

/-! ### Texts without blanks at their ends -/

/-- A text that begins and ends with characters that are not blank. -/
structure Trimmed (s : List Char) : Prop where
  head : ∃ c, s.head? = some c ∧ isBlank c = false
  last : ∃ c, s.getLast? = some c ∧ isBlank c = false

theorem dropWhile_isBlank {s : List Char} (h : ∃ c, s.head? = some c ∧ isBlank c = false) :
    s.dropWhile isBlank = s := by
  obtain ⟨c, hc, hblank⟩ := h
  obtain ⟨rest, rfl⟩ := List.head?_eq_some_iff.1 hc
  rw [List.dropWhile_cons_of_neg (by simp [hblank])]

namespace Trimmed

variable {s rest : List Char}

theorem trim_eq (h : Trimmed s) : trim s = s := by
  have hend : s.reverse.dropWhile isBlank = s.reverse := by
    apply dropWhile_isBlank
    rw [List.head?_reverse]
    exact h.last
  rw [trim, trimStart, dropWhile_isBlank h.head, trimEnd, hend, List.reverse_reverse]

/-- What stands behind such a text is all that trimming can shorten. -/
theorem trim_append (h : Trimmed s) (rest : List Char) : trim (s ++ rest) = s ++ trimEnd rest := by
  have hstart : (s ++ rest).dropWhile isBlank = s ++ rest := by
    obtain ⟨first, hfirst, hblank⟩ := h.head
    apply dropWhile_isBlank
    exact ⟨first, by rw [List.head?_append, hfirst, Option.some_or], hblank⟩
  have hend : s.reverse.dropWhile isBlank = s.reverse := by
    apply dropWhile_isBlank
    rw [List.head?_reverse]
    exact h.last
  rw [trim, trimStart, hstart, trimEnd, trimEnd, List.reverse_append, List.dropWhile_append]
  split
  · rename_i hblank
    rw [hend, List.isEmpty_iff.1 hblank, List.reverse_reverse, List.reverse_nil, List.append_nil]
  · rw [List.reverse_append, List.reverse_reverse]

theorem trim_append_blank (h : Trimmed s) {c : Char} (hc : isBlank c = true) :
    trim (s ++ [c]) = s := by
  have hblank : trimEnd [c] = [] := by
    rw [trimEnd, List.reverse_singleton, List.dropWhile_cons_of_pos hc]
    rfl
  rw [h.trim_append, hblank, List.append_nil]

theorem append (hs : Trimmed s) (hrest : Trimmed rest) : Trimmed (s ++ rest) := by
  obtain ⟨first, hfirst, hhead⟩ := hs.head
  obtain ⟨last, hlast, hend⟩ := hrest.last
  refine ⟨⟨first, ?_, hhead⟩, ⟨last, ?_, hend⟩⟩
  · rw [List.head?_append, hfirst, Option.some_or]
  · rw [List.getLast?_append, hlast, Option.some_or]

theorem singleton {c : Char} (h : isBlank c = false) : Trimmed [c] :=
  ⟨⟨c, rfl, h⟩, ⟨c, rfl, h⟩⟩

/-- What stands between two ends does not matter. -/
theorem enclosed {first last : Char} (s : List Char) (hfirst : isBlank first = false)
    (hlast : isBlank last = false) : Trimmed (first :: s ++ [last]) := by
  refine ⟨⟨first, rfl, hfirst⟩, ⟨last, ?_, hlast⟩⟩
  rw [List.getLast?_append]
  rfl

theorem of_isAlphanum (hs : s ≠ []) (h : s.all Char.isAlphanum = true) : Trimmed s := by
  have hblank : ∀ c ∈ s, isBlank c = false :=
    fun c hc => isBlank_of_isAlphanum (List.all_eq_true.1 h c hc)
  exact ⟨⟨s.head hs, List.head?_eq_some_head hs, hblank _ (List.head_mem hs)⟩,
    ⟨s.getLast hs, List.getLast?_eq_some_getLast hs, hblank _ (List.getLast_mem hs)⟩⟩

theorem of_isDigit (hs : s ≠ []) (h : ∀ c ∈ s, c.isDigit = true) : Trimmed s :=
  of_isAlphanum hs (List.all_eq_true.2 fun c hc => by rw [Char.isAlphanum, h c hc, Bool.or_true])

end Trimmed

end QueryVariants.Text
