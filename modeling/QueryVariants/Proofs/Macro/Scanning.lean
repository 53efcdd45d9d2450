import QueryVariants.Macro.Arguments

/-!
# Scanning argument lists

A scan keeps a depth and knows whether it is inside quotes. Away from quotes every character changes the
depth by a number of its own, so what a text does to a scan can be counted. The texts that matter bring
the scan back to where it was without meeting a comma that separates; they are put together from plain
words, quoted texts, and texts between an opening and a closing character.
-/

namespace QueryVariants.Macro

def isOpening (c : Char) : Bool := c = '(' || c = '\x7b'

def isClosing (c : Char) : Bool := c = ')' || c = '\x7d'

theorem isOpening_iff {c : Char} : isOpening c = true ↔ c = '(' ∨ c = '\x7b' := by
  rw [isOpening, Bool.or_eq_true, decide_eq_true_iff, decide_eq_true_iff]

theorem isClosing_iff {c : Char} : isClosing c = true ↔ c = ')' ∨ c = '\x7d' := by
  rw [isClosing, Bool.or_eq_true, decide_eq_true_iff, decide_eq_true_iff]

theorem isClosing_of_isOpening {c : Char} (h : isOpening c = true) : isClosing c = false := by
  rcases isOpening_iff.1 h with rfl | rfl <;> rfl

/-! ### Scanning a text -/

namespace Scan

/-- Where a scan stands after a text. -/
def run (scan : Scan) (s : List Char) : Scan :=
  s.foldl step scan

/-- No comma of the text separates. -/
def clean (scan : Scan) : List Char → Bool
  | [] => true
  | c :: rest => (c ≠ ',' || !scan.atTop) && clean (scan.step c) rest

/-- How a character that is not a quote changes the depth. -/
def change (c : Char) : Int :=
  if isOpening c then 1 else if isClosing c then -1 else 0

section

variable {scan : Scan} {c : Char} {s : List Char}

theorem run_cons (scan : Scan) (c : Char) (s : List Char) :
    scan.run (c :: s) = (scan.step c).run s := rfl

theorem run_append (scan : Scan) (s rest : List Char) :
    scan.run (s ++ rest) = (scan.run s).run rest :=
  List.foldl_append

theorem clean_append (scan : Scan) (s rest : List Char) :
    scan.clean (s ++ rest) = (scan.clean s && (scan.run s).clean rest) := by
  induction s generalizing scan with
  | nil => rfl
  | cons c s ih => rw [List.cons_append, clean, clean, ih, run_cons, Bool.and_assoc]

theorem step_of_ne_quote (hc : c ≠ '"') : scan.step c = ⟨scan.depth + change c, scan.quoted⟩ := by
  rw [step, change]
  by_cases hopening : c = '(' ∨ c = '\x7b'
  · rw [if_pos hopening, if_pos (isOpening_iff.2 hopening)]
  · rw [if_neg hopening, if_neg (mt isOpening_iff.1 hopening)]
    by_cases hclosing : c = ')' ∨ c = '\x7d'
    · rw [if_pos hclosing, if_pos (isClosing_iff.2 hclosing)]
      rfl
    · rw [if_neg hclosing, if_neg hc, if_neg (mt isClosing_iff.1 hclosing), Int.add_zero]

theorem natAbs_depth_step_le (scan : Scan) (c : Char) : (scan.step c).depth.natAbs ≤ scan.depth.natAbs + 1 := by
  unfold step
  split
  · exact Int.natAbs_add_le scan.depth 1
  · split
    · exact Int.natAbs_sub_le scan.depth 1
    · split <;> exact Nat.le_succ _

/-- Every character takes the depth one further from zero at most. -/
theorem natAbs_depth_run_le (scan : Scan) (s : List Char) :
    (scan.run s).depth.natAbs ≤ scan.depth.natAbs + s.length := by
  induction s generalizing scan with
  | nil => exact Nat.le_refl _
  | cons c s ih =>
      have hstep := natAbs_depth_step_le scan c
      have hrest := ih (scan.step c)
      rw [run_cons, List.length_cons]
      omega

/-- At no place in a text that can be counted in 32 bits does the depth leave their range. -/
theorem depth_run_mem_range {front : List Char} (hlength : s.length < 2147483648) (hfront : front <+: s) :
    -2147483648 ≤ (start.run front).depth ∧ (start.run front).depth < 2147483648 := by
  have hle : front.length ≤ s.length := hfront.length_le
  have hdepth : (start.run front).depth.natAbs ≤ 0 + front.length := natAbs_depth_run_le start front
  omega

/-- The depth changes by what is opened and not closed. -/
theorem run_of_notMem_quote (hs : '"' ∉ s) :
    scan.run s =
      ⟨scan.depth + (s.countP isOpening : Nat) - (s.countP isClosing : Nat), scan.quoted⟩ := by
  induction s generalizing scan with
  | nil => simp [run]
  | cons c s ih =>
      obtain ⟨hc, hs⟩ := List.ne_and_not_mem_of_not_mem_cons hs
      have hcount : scan.depth + change c + (s.countP isOpening : Nat) - (s.countP isClosing : Nat) =
          scan.depth + ((c :: s).countP isOpening : Nat) - ((c :: s).countP isClosing : Nat) := by
        rw [List.countP_cons, List.countP_cons, change]
        cases hopening : isOpening c with
        | true =>
            rw [isClosing_of_isOpening hopening]
            simp only [if_true, Bool.false_eq_true, if_false]
            omega
        | false =>
            cases isClosing c <;> simp only [Bool.false_eq_true, if_true, if_false] <;> omega
      rw [run_cons, step_of_ne_quote (Ne.symm hc), ih hs, hcount]

theorem clean_of_notMem_comma (hs : ',' ∉ s) : scan.clean s = true := by
  induction s generalizing scan with
  | nil => rfl
  | cons c s ih =>
      obtain ⟨hc, hs⟩ := List.ne_and_not_mem_of_not_mem_cons hs
      rw [clean, ih hs, Bool.and_true]
      simpa using Or.inl (Ne.symm hc)

/-- Inside quotes no comma separates. -/
theorem clean_of_quoted (hquoted : scan.quoted = true) (hs : '"' ∉ s) : scan.clean s = true := by
  induction s generalizing scan with
  | nil => rfl
  | cons c s ih =>
      obtain ⟨hc, hs⟩ := List.ne_and_not_mem_of_not_mem_cons hs
      have hnext : (scan.step c).quoted = true := by
        rw [step_of_ne_quote (Ne.symm hc), hquoted]
      rw [clean, ih hnext hs, Bool.and_true]
      simp [atTop, hquoted]

end

end Scan

/-! ### Texts that leave a scan where it was -/

/-- A text that a scan at the given depth passes through without a separator, back to where it was. -/
structure Neutral (depth : Int) (s : List Char) : Prop where
  clean : (Scan.mk depth false).clean s = true
  back : (Scan.mk depth false).run s = ⟨depth, false⟩

/-- The characters that a scan looks at. -/
def marks : List Char := ['"', '(', ')', '\x7b', '\x7d', ',']

/-- A text that a scan does not notice. -/
def Plain (s : List Char) : Prop := ∀ c ∈ s, c ∉ marks

instance (s : List Char) : Decidable (Plain s) :=
  List.decidableBAll _ s

theorem plain_of_isAlphanum {s : List Char} (h : s.all Char.isAlphanum = true) : Plain s := by
  intro c hc hmark
  have halphanum := List.all_eq_true.1 h c hc
  simp only [marks, List.mem_cons, List.not_mem_nil, or_false] at hmark
  rcases hmark with rfl | rfl | rfl | rfl | rfl | rfl <;> exact absurd halphanum (by decide)

/-- As many parentheses and braces together are opened as are closed, in any order. -/
def EvenlyNested (s : List Char) : Prop := s.countP isOpening = s.countP isClosing

instance (s : List Char) : Decidable (EvenlyNested s) :=
  inferInstanceAs (Decidable (_ = _))

namespace Neutral

variable {depth : Int} {s rest : List Char}

theorem nil : Neutral depth [] := ⟨rfl, rfl⟩

theorem append (hs : Neutral depth s) (hrest : Neutral depth rest) : Neutral depth (s ++ rest) := by
  constructor
  · rw [Scan.clean_append, hs.clean, hs.back, hrest.clean]
    rfl
  · rw [Scan.run_append, hs.back, hrest.back]

theorem of_evenlyNested (hquote : '"' ∉ s) (hcomma : ',' ∉ s) (hs : EvenlyNested s) :
    Neutral depth s := by
  refine ⟨Scan.clean_of_notMem_comma hcomma, ?_⟩
  rw [Scan.run_of_notMem_quote hquote, hs, Int.add_sub_cancel]

theorem of_plain (hs : Plain s) : Neutral depth s := by
  have hnone : ∀ c ∈ marks, c ∉ s := fun c hc hmem => hs c hmem hc
  refine of_evenlyNested (hnone _ (by decide)) (hnone _ (by decide)) ?_
  have hopening : s.countP isOpening = 0 := by
    rw [List.countP_eq_zero]
    intro c hc h
    rcases isOpening_iff.1 h with rfl | rfl <;> exact hs _ hc (by decide)
  have hclosing : s.countP isClosing = 0 := by
    rw [List.countP_eq_zero]
    intro c hc h
    rcases isClosing_iff.1 h with rfl | rfl <;> exact hs _ hc (by decide)
  rw [EvenlyNested, hopening, hclosing]

/-- A comma below the top does not separate. -/
theorem comma (hdepth : depth ≠ 0) : Neutral depth [','] := by
  constructor
  · simp [Scan.clean, Scan.atTop, hdepth]
  · rfl

/-- Between an opening and a closing character the scan is one level deeper. -/
theorem enclosed {opening closing : Char} (hopening : isOpening opening = true)
    (hclosing : isClosing closing = true) (hs : Neutral (depth + 1) s) :
    Neutral depth (opening :: s ++ [closing]) := by
  have hin : (Scan.mk depth false).step opening = ⟨depth + 1, false⟩ := by
    rcases isOpening_iff.1 hopening with rfl | rfl <;> rfl
  have hout : (Scan.mk (depth + 1) false).step closing = ⟨depth, false⟩ := by
    have hlower : depth + 1 - 1 = depth := Int.add_sub_cancel depth 1
    rcases isClosing_iff.1 hclosing with rfl | rfl <;> simp [Scan.step, hlower]
  have hfirst : opening ≠ ',' := by
    rintro rfl
    exact absurd hopening (by decide)
  have hlast : closing ≠ ',' := by
    rintro rfl
    exact absurd hclosing (by decide)
  constructor
  · rw [List.cons_append, Scan.clean, hin, Scan.clean_append, hs.clean, hs.back, Scan.clean]
    simp [hfirst, hlast, Scan.clean]
  · rw [List.cons_append, Scan.run_cons, hin, Scan.run_append, hs.back, Scan.run_cons, hout]
    rfl

theorem quoted (hs : '"' ∉ s) (hnesting : EvenlyNested s) : Neutral depth ('"' :: s ++ ['"']) := by
  have hin : (Scan.mk depth false).step '"' = ⟨depth, true⟩ := rfl
  have hout : (Scan.mk depth true).step '"' = ⟨depth, false⟩ := rfl
  have hback : (Scan.mk depth true).run s = ⟨depth, true⟩ := by
    rw [Scan.run_of_notMem_quote hs, hnesting, Int.add_sub_cancel]
  constructor
  · rw [List.cons_append, Scan.clean, hin, Scan.clean_append, Scan.clean_of_quoted rfl hs, hback]
    rfl
  · rw [List.cons_append, Scan.run_cons, hin, Scan.run_append, hback, Scan.run_cons, hout]
    rfl

end Neutral

end QueryVariants.Macro
