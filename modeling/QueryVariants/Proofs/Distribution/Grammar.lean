import QueryVariants.Proofs.Distribution.Reading
import QueryVariants.Proofs.Text.Numeral

/-!
# The grammar of records

What a record says, without the reader: where it is cut, which values and weights its halves hold, and which
row it stands for. The relations are those of the format; that the reader follows them is proved here, one
lemma for each of its functions.
-/

namespace QueryVariants.Distribution

open Text

/-! ### Records -/

/-- A record of a text with its line number: a line, trimmed, that is neither blank nor a comment. -/
def IsRecord (s : List Char) (line : Nat) (record : List Char) : Prop :=
  ∃ index whole, line = index + 1 ∧ (lines s)[index]? = some whole ∧ record = trim whole ∧
    record ≠ [] ∧ ¬"--".toList <+: record

theorem mem_records_iff {s : List Char} {line : Nat} {record : List Char} :
    (line, record) ∈ records s ↔ IsRecord s line record := by
  have hrecord : ∀ s : List Char, (!s.isEmpty && !"--".toList.isPrefixOf s) = true ↔
      s ≠ [] ∧ ¬"--".toList <+: s := by
    intro s
    simp only [Bool.and_eq_true, Bool.not_eq_true', ← Bool.not_eq_true, List.isEmpty_iff,
      List.isPrefixOf_iff_prefix, ne_eq]
  rw [records, List.mem_filter, numberedLines, List.map_map, List.mem_map, hrecord]
  constructor
  · rintro ⟨⟨⟨whole, index⟩, hline, heq⟩, hkept⟩
    obtain ⟨rfl, rfl⟩ := Prod.mk.inj heq
    exact ⟨index, whole, rfl, List.mem_zipIdx_iff_getElem?.1 hline, rfl, hkept⟩
  · rintro ⟨index, whole, rfl, hline, rfl, hkept⟩
    exact ⟨⟨(whole, index), List.mem_zipIdx_iff_getElem?.2 hline, rfl⟩, by simpa using hkept⟩

/-- Records are listed from the first line to the last. -/
theorem pairwise_records (s : List Char) : (records s).Pairwise fun first second => first.1 < second.1 := by
  rw [records]
  apply List.Pairwise.filter
  rw [numberedLines, List.map_map, List.pairwise_map]
  have hindices : ((lines s).zipIdx.map Prod.snd).Pairwise (· < ·) := by
    rw [List.zipIdx_map_snd]
    exact List.pairwise_lt_range'
  refine (List.pairwise_map.1 hindices).imp ?_
  intro first second hlt
  exact Nat.succ_lt_succ hlt

/-! ### Cuts -/

/-- Every delimiter of the text has a backslash directly before it. -/
def Whole (delimiter : Char) (s : List Char) : Prop :=
  ∀ before after, s = before ++ delimiter :: after → before.getLast? = some '\\'

/-- The pieces of a text between the delimiters that have no backslash directly before them. -/
inductive Cuts (delimiter : Char) : List Char → List (List Char) → Prop where
  | last {s : List Char} (whole : Whole delimiter s) : Cuts delimiter s [s]
  | next {s rest : List Char} {pieces : List (List Char)} (whole : Whole delimiter s)
      (separates : s.getLast? ≠ some '\\') (more : Cuts delimiter rest pieces) :
      Cuts delimiter (s ++ delimiter :: rest) (s :: pieces)

section

variable {delimiter c : Char} {escaped : Bool} {s rest : List Char} {pieces : List (List Char)}

theorem endsEscaped_eq_true_iff :
    endsEscaped escaped s = true ↔ s.getLast? = some '\\' ∨ s = [] ∧ escaped = true := by
  rcases List.eq_nil_or_concat s with rfl | ⟨init, last, rfl⟩
  · simp [endsEscaped]
  · simp [endsEscaped]

/-- A text is covered exactly if a backslash stands before each of its delimiters. -/
theorem covered_eq_true_iff :
    covered delimiter escaped s = true ↔
      ∀ before after, s = before ++ delimiter :: after → endsEscaped escaped before = true := by
  induction s generalizing escaped with
  | nil => simp [covered]
  | cons c s ih =>
      rw [covered, Bool.and_eq_true_iff, ih]
      constructor
      · rintro ⟨hfirst, hrest⟩ before after heq
        cases before with
        | nil =>
            obtain ⟨rfl, -⟩ := List.cons.inj heq
            simpa [endsEscaped] using hfirst
        | cons d before =>
            obtain ⟨rfl, htail⟩ := List.cons.inj heq
            exact hrest before after htail
      · intro h
        constructor
        · by_cases hc : c = delimiter
          · have hescaped : escaped = true := h [] s (by rw [hc, List.nil_append])
            rw [hescaped, Bool.or_true]
          · simp [hc]
        · intro before after heq
          exact h (c :: before) after (by rw [heq, List.cons_append])

theorem whole_iff : Whole delimiter s ↔ covered delimiter false s = true := by
  rw [covered_eq_true_iff, Whole]
  simp [endsEscaped_eq_true_iff]

theorem endsEscaped_eq_false_iff : endsEscaped false s = false ↔ s.getLast? ≠ some '\\' := by
  rw [← Bool.not_eq_true, endsEscaped_eq_true_iff]
  simp

/-- A text that is not covered has a first delimiter that separates. -/
theorem exists_separator (h : covered delimiter escaped s = false) :
    ∃ piece rest, s = piece ++ delimiter :: rest ∧ covered delimiter escaped piece = true ∧
      endsEscaped escaped piece = false := by
  induction s generalizing escaped with
  | nil => cases h
  | cons c s ih =>
      by_cases hc : (c ≠ delimiter || escaped) = true
      · rw [covered, hc, Bool.true_and] at h
        obtain ⟨piece, rest, rfl, hcovered, hend⟩ := ih h
        exact ⟨c :: piece, rest, rfl, by rw [covered, hc, hcovered, Bool.and_self], hend⟩
      · obtain ⟨rfl, rfl⟩ : c = delimiter ∧ escaped = false := by simpa using hc
        exact ⟨[], s, rfl, rfl, rfl⟩

theorem cuts_splitAt (s : List Char) : Cuts delimiter s (splitAt delimiter false s) := by
  induction hlength : s.length using Nat.strongRecOn generalizing s with
  | ind n ih =>
      cases hs : covered delimiter false s with
      | true =>
          rw [splitAt_of_covered hs]
          exact .last (whole_iff.2 hs)
      | false =>
          obtain ⟨piece, rest, rfl, hpiece, hend⟩ := exists_separator hs
          rw [splitAt_append hpiece hend]
          refine .next (whole_iff.2 hpiece) (endsEscaped_eq_false_iff.1 hend) (ih rest.length ?_ rest rfl)
          rw [← hlength, List.length_append, List.length_cons]
          omega

/-- A text is split into the pieces between the delimiters that separate. -/
theorem cuts_iff : Cuts delimiter s pieces ↔ splitAt delimiter false s = pieces := by
  constructor
  · intro h
    induction h with
    | last hwhole => exact splitAt_of_covered (whole_iff.1 hwhole)
    | next hwhole hseparates _ ih =>
        rw [splitAt_append (whole_iff.1 hwhole) (endsEscaped_eq_false_iff.2 hseparates), ih]
  · rintro rfl
    exact cuts_splitAt s

end

/-! ### Halves -/

/-- The texts that one half of a record holds: cut at the commas, trimmed, and without their backslashes. -/
def HalfHolds (half : List Char) (texts : List (List Char)) : Prop :=
  ∃ pieces, Cuts ',' (trim half) pieces ∧
    texts = pieces.map fun piece => (trim piece).filter (· ≠ '\\')

/-- The two halves of a record and what they hold. -/
def Halves (record : List Char) (values weights : List (List Char)) : Prop :=
  ∃ left right, Cuts ':' record [left, right] ∧ HalfHolds left values ∧ HalfHolds right weights

theorem halfHolds_iff {half : List Char} {texts : List (List Char)} :
    HalfHolds half texts ↔ splitValues (trim half) = texts := by
  rw [HalfHolds, splitValues, splitUnescaped, List.map_map]
  constructor
  · rintro ⟨pieces, hcuts, rfl⟩
    rw [cuts_iff.1 hcuts]
    rfl
  · rintro rfl
    exact ⟨_, cuts_iff.2 rfl, rfl⟩

theorem halves_iff {record : List Char} {values weights : List (List Char)} :
    Halves record values weights ↔ ∃ left right, splitParts record = [left, right] ∧
      splitValues left = values ∧ splitValues right = weights := by
  constructor
  · rintro ⟨left, right, hcuts, hleft, hright⟩
    refine ⟨trim left, trim right, ?_, halfHolds_iff.1 hleft, halfHolds_iff.1 hright⟩
    rw [splitParts, splitUnescaped, cuts_iff.1 hcuts]
    rfl
  · rintro ⟨_, _, hparts, hvalues, hweights⟩
    obtain ⟨left, more, hpieces, rfl, hmore⟩ := List.map_eq_cons_iff.1 hparts
    obtain ⟨right, rfl, rfl⟩ := List.map_eq_singleton_iff.1 hmore
    exact ⟨left, right, cuts_iff.2 hpieces, halfHolds_iff.2 hvalues, halfHolds_iff.2 hweights⟩

theorem Halves.unique {record : List Char} {values raws values' raws' : List (List Char)}
    (h : Halves record values raws) (h' : Halves record values' raws') : values = values' ∧ raws = raws' := by
  obtain ⟨left, right, hparts, rfl, rfl⟩ := halves_iff.1 h
  obtain ⟨left', right', hparts', rfl, rfl⟩ := halves_iff.1 h'
  obtain ⟨rfl, hright⟩ := List.cons.inj (hparts.symm.trans hparts')
  obtain ⟨rfl, -⟩ := List.cons.inj hright
  exact ⟨rfl, rfl⟩

/-! ### Rows -/

/-- A row is what a record stands for: it has the values and the weights of the record, as many as there are
names, and every weight is the number that its numeral denotes. -/
structure StandsFor (fields weights : List String) (record : List Char) (row : Row) : Prop where
  halves : ∃ raws, Halves record (row.values.map String.toList) raws ∧
    List.Forall₂ (fun raw weight => Denotes raw (weight : Nat)) raws row.weights
  values_length : row.values.length = fields.length
  weights_length : row.weights.length = weights.length

theorem forall₂_denotes_iff {raws : List (List Char)} {weights : List Nat} :
    List.Forall₂ (fun raw weight => Denotes raw (weight : Nat)) raws weights ↔
      raws.map readSigned? = weights.map fun weight : Nat => some (weight : Int) := by
  rw [← List.forall₂_eq_eq_eq, List.forall₂_map_left_iff, List.forall₂_map_right_iff]
  simp only [readSigned?_eq_some_iff]

theorem standsFor_iff {fields weights : List String} {record : List Char} {row : Row} :
    StandsFor fields weights record row ↔ row.ReadFrom fields weights record := by
  constructor
  · rintro ⟨⟨raws, hhalves, hraws⟩, hfields, hnames⟩
    obtain ⟨left, right, hparts, hvalues, rfl⟩ := halves_iff.1 hhalves
    refine ⟨⟨left, right, hparts, ?_, forall₂_denotes_iff.1 hraws⟩, hfields, hnames⟩
    rw [hvalues, List.map_map]
    simp
  · rintro ⟨⟨left, right, hparts, hvalues, hraws⟩, hfields, hnames⟩
    refine ⟨⟨_, halves_iff.2 ⟨left, right, hparts, ?_, rfl⟩, forall₂_denotes_iff.2 hraws⟩, hfields, hnames⟩
    rw [hvalues, List.map_map]
    simp

theorem StandsFor.unique {fields weights : List String} {record : List Char} {row other : Row}
    (h : StandsFor fields weights record row) (h' : StandsFor fields weights record other) : row = other := by
  obtain ⟨raws, hhalves, hraws⟩ := h.halves
  obtain ⟨raws', hhalves', hraws'⟩ := h'.halves
  obtain ⟨hvalues, rfl⟩ := hhalves.unique hhalves'
  have hweights : row.weights = other.weights := by
    refine List.right_unique_forall₂' ?_ hraws hraws'
    intro raw first second hfirst hsecond
    exact Int.ofNat_inj.1 (hfirst.unique hsecond)
  obtain ⟨values, weights⟩ := row
  obtain ⟨values', weights'⟩ := other
  rw [Row.mk.injEq]
  exact ⟨List.map_injective_iff.2 (fun _ _ => String.toList_inj.1) hvalues, hweights⟩

end QueryVariants.Distribution
