import QueryVariants.Distribution.Record
import QueryVariants.Proofs.Text.Cut
import QueryVariants.Proofs.Text.Lines

/-!
# Where records are split

A delimiter separates unless a backslash stands directly before it. A text in which every delimiter has
its backslash is covered: it is one piece, and it stays one piece in front of a delimiter that separates,
as long as it does not end with a backslash itself.
-/

namespace QueryVariants.Distribution

open Text

section

variable {delimiter : Char} {escaped : Bool} {s rest : List Char}

/-- Every delimiter of the text has a backslash directly before it. -/
def covered (delimiter : Char) (escaped : Bool) : List Char → Bool
  | [] => true
  | c :: rest => (c ≠ delimiter || escaped) && covered delimiter (c == '\\') rest

/-- Whether a backslash stands directly before what follows the text. -/
def endsEscaped (escaped : Bool) (s : List Char) : Bool :=
  s.foldl (fun _ c => c == '\\') escaped

theorem covered_append (s rest : List Char) :
    covered delimiter escaped (s ++ rest) =
      (covered delimiter escaped s && covered delimiter (endsEscaped escaped s) rest) := by
  induction s generalizing escaped with
  | nil => rfl
  | cons c s ih =>
      rw [List.cons_append, covered, covered, ih, Bool.and_assoc]
      rfl

theorem endsEscaped_append (s rest : List Char) :
    endsEscaped escaped (s ++ rest) = endsEscaped (endsEscaped escaped s) rest :=
  List.foldl_append

theorem covered_of_notMem (h : delimiter ∉ s) : covered delimiter escaped s = true := by
  induction s generalizing escaped with
  | nil => rfl
  | cons c s ih =>
      obtain ⟨hc, hs⟩ := List.ne_and_not_mem_of_not_mem_cons h
      rw [covered, ih hs, Bool.and_true]
      simpa using Or.inl (Ne.symm hc)

theorem splitAt_cons {c : Char} (h : (c ≠ delimiter || escaped) = true) :
    splitAt delimiter escaped (c :: rest) =
      consFirst c (splitAt delimiter (c == '\\') rest) := by
  have hkept : ¬(c = delimiter ∧ escaped = false) := by
    rintro ⟨rfl, rfl⟩
    simp at h
  rw [splitAt, if_neg hkept]

theorem splitAt_of_covered (h : covered delimiter escaped s = true) :
    splitAt delimiter escaped s = [s] := by
  induction s generalizing escaped with
  | nil => rfl
  | cons c s ih =>
      obtain ⟨hc, hs⟩ := Bool.and_eq_true_iff.1 h
      rw [splitAt_cons hc, ih hs]
      rfl

theorem splitAt_append (h : covered delimiter escaped s = true)
    (hend : endsEscaped escaped s = false) (rest : List Char) :
    splitAt delimiter escaped (s ++ delimiter :: rest) = s :: splitAt delimiter false rest := by
  induction s generalizing escaped with
  | nil =>
      have hescaped : escaped = false := hend
      rw [List.nil_append, splitAt, if_pos ⟨rfl, hescaped⟩]
  | cons c s ih =>
      obtain ⟨hc, hs⟩ := Bool.and_eq_true_iff.1 h
      rw [List.cons_append, splitAt_cons hc, ih hs hend]
      rfl

end

/-! ### What the pieces are made of -/

section

variable {delimiter c : Char} {escaped : Bool} {s piece : List Char}

theorem splitAt_ne_nil : splitAt delimiter escaped s ≠ [] := by
  intro h
  cases s with
  | nil => cases h
  | cons c s =>
      rw [splitAt] at h
      split at h
      · cases h
      · cases hrest : splitAt delimiter (c == '\\') s <;> rw [hrest] at h <;> cases h

theorem mem_of_mem_splitAt (hpiece : piece ∈ splitAt delimiter escaped s) (hc : c ∈ piece) :
    c ∈ s := by
  induction s generalizing escaped piece with
  | nil =>
      obtain rfl := List.mem_singleton.1 hpiece
      exact hc
  | cons d s ih =>
      rw [splitAt] at hpiece
      split at hpiece
      · rcases List.mem_cons.1 hpiece with rfl | hpiece
        · exact absurd hc List.not_mem_nil
        · exact List.mem_cons_of_mem _ (ih hpiece hc)
      · rcases mem_of_mem_consFirst hpiece hc with rfl | ⟨other, hother, hc⟩
        · exact List.mem_cons_self
        · exact List.mem_cons_of_mem _ (ih hother hc)

theorem mem_of_mem_splitUnescaped (hpiece : piece ∈ splitUnescaped delimiter s) (hc : c ∈ piece) :
    c ∈ s := by
  obtain ⟨whole, hwhole, rfl⟩ := List.mem_map.1 hpiece
  exact mem_of_mem_splitAt hwhole (mem_of_mem_trim hc)

theorem splitValues_ne_nil : splitValues s ≠ [] := by
  intro h
  rw [splitValues, List.map_eq_nil_iff, splitUnescaped, List.map_eq_nil_iff] at h
  exact splitAt_ne_nil h

/-- A value has no backslash, and no character that is not in the text. -/
theorem of_mem_splitValues (hpiece : piece ∈ splitValues s) :
    '\\' ∉ piece ∧ ∀ c ∈ piece, c ∈ s := by
  obtain ⟨value, hvalue, rfl⟩ := List.mem_map.1 hpiece
  constructor
  · simp
  · intro c hc
    exact mem_of_mem_splitUnescaped hvalue (List.mem_filter.1 hc).1

theorem map_snd_records (s : List Char) :
    (records s).map Prod.snd =
      ((lines s).map trim).filter fun line => !line.isEmpty && !"--".toList.isPrefixOf line := by
  rw [← map_snd_numberedLines, List.map_map, List.filter_map, records, List.filter_map, List.map_map]
  rfl

theorem newline_notMem_of_mem_records {line : Nat} {record : List Char}
    (h : (line, record) ∈ records s) : '\n' ∉ record := by
  have hrecord : record ∈ (records s).map Prod.snd := List.mem_map.2 ⟨_, h, rfl⟩
  rw [map_snd_records] at hrecord
  obtain ⟨whole, hwhole, rfl⟩ := List.mem_map.1 (List.mem_filter.1 hrecord).1
  intro hmem
  exact newline_notMem_of_mem_lines hwhole (mem_of_mem_trim hmem)

end

/-! ### Joined pieces -/

section

variable {delimiter : Char} {escaped : Bool}

theorem endsEscaped_of_notMem {s : List Char} (hne : s ≠ []) (h : '\\' ∉ s) :
    endsEscaped escaped s = false := by
  obtain ⟨init, last, rfl⟩ := (List.eq_nil_or_concat s).resolve_left hne
  rw [List.concat_eq_append] at h ⊢
  have hlast : last ≠ '\\' := by
    rintro rfl
    exact h (List.mem_append_right _ List.mem_cons_self)
  rw [endsEscaped_append]
  simpa [endsEscaped] using hlast

theorem notMem_intercalate {c : Char} {separator : List Char} {pieces : List (List Char)}
    (hseparator : c ∉ separator) (h : ∀ piece ∈ pieces, c ∉ piece) :
    c ∉ List.intercalate separator pieces := by
  induction pieces with
  | nil => exact List.not_mem_nil
  | cons piece pieces ih =>
      obtain ⟨hpiece, hpieces⟩ := List.forall_mem_cons.1 h
      cases pieces with
      | nil => simpa using hpiece
      | cons next rest =>
          rw [List.intercalate_cons_cons, List.mem_append, List.mem_append]
          rintro ((hmem | hmem) | hmem)
          · exact hpiece hmem
          · exact hseparator hmem
          · exact ih hpieces hmem

theorem covered_intercalate {separator : List Char} {pieces : List (List Char)}
    (hseparator : delimiter ∉ separator) (h : ∀ piece ∈ pieces, ∀ before, covered delimiter before piece = true) :
    covered delimiter escaped (List.intercalate separator pieces) = true := by
  induction pieces generalizing escaped with
  | nil => rfl
  | cons piece pieces ih =>
      obtain ⟨hpiece, hpieces⟩ := List.forall_mem_cons.1 h
      cases pieces with
      | nil => simpa using hpiece escaped
      | cons next rest =>
          rw [List.intercalate_cons_cons, List.append_assoc, covered_append, hpiece, covered_append,
            covered_of_notMem hseparator, ih hpieces]
          rfl

/-- Covered pieces that do not end with a backslash are split where they were joined. -/
theorem splitAt_intercalate {pieces : List (List Char)} (hne : pieces ≠ [])
    (hcovered : ∀ piece ∈ pieces, covered delimiter false piece = true)
    (hend : ∀ piece ∈ pieces, endsEscaped false piece = false) :
    splitAt delimiter false (List.intercalate [delimiter] pieces) = pieces := by
  induction pieces with
  | nil => exact absurd rfl hne
  | cons piece pieces ih =>
      obtain ⟨hpiece, hpieces⟩ := List.forall_mem_cons.1 hcovered
      obtain ⟨hlast, hend⟩ := List.forall_mem_cons.1 hend
      cases pieces with
      | nil => simpa using splitAt_of_covered hpiece
      | cons next rest =>
          rw [List.intercalate_cons_cons, List.append_assoc, List.singleton_append,
            splitAt_append hpiece hlast, ih (List.cons_ne_nil _ _) hpieces hend]

end

end QueryVariants.Distribution
