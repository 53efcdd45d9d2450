import Mathlib.Data.List.TakeWhile
import QueryVariants.Proofs.Text.Cut
import QueryVariants.Template.Line

/-!
# Define lines and body lines

What kind a line is can be said without cutting it: a define is written with blanks, the keyword in any case and
a blank, and a line of the body is neither that nor blank nor a comment. The classification finds exactly these
lines.
-/

namespace QueryVariants.Template

open Text

/-- A line that begins with the keyword, between blanks. -/
def HasKeyword (line : List Char) : Prop :=
  ∃ margin keyword gap rest, line = margin ++ (keyword ++ (gap :: rest)) ∧
    (∀ c ∈ margin, isBlank c = true) ∧ asciiLower keyword = "define".toList ∧ isBlank gap = true

/-- A line that begins with two hyphens. -/
def IsComment (line : List Char) : Prop :=
  "--".toList <+: line

def IsDefine (line : List Char) : Prop :=
  ¬IsComment line ∧ HasKeyword line

/-- What is left of the lines without defines, comments and blank lines. -/
def IsBody (line : List Char) : Prop :=
  ¬IsComment line ∧ ¬HasKeyword line ∧ ∃ c ∈ line, isBlank c = false

section

variable {line : List Char} {c : Char}

theorem isBlank_of_toLower (h : c.toLower.isAlphanum = true) : isBlank c = false := by
  by_cases hupper : c.val ≥ 'A'.val ∧ c.val ≤ 'Z'.val
  · have hclass : c.isUpper = true := decide_eq_true hupper
    have halpha : c.isAlpha = true := Bool.or_eq_true_iff.2 (.inl hclass)
    exact isBlank_of_isAlphanum (Bool.or_eq_true_iff.2 (.inl halpha))
  · have hlower : c.toLower = c := dif_neg hupper
    rw [hlower] at h
    exact isBlank_of_isAlphanum h

/-- The keyword begins with a letter, whatever its case. -/
theorem exists_keyword_eq_cons {keyword : List Char} (h : asciiLower keyword = "define".toList) :
    ∃ first rest, keyword = first :: rest ∧ isBlank first = false := by
  cases keyword with
  | nil => cases h
  | cons first rest =>
      have hfirst : first.toLower = 'd' := (List.cons.inj h).1
      exact ⟨first, rest, rfl, isBlank_of_toLower (by rw [hfirst]; rfl)⟩

theorem hasKeyword_iff : HasKeyword line ↔ (afterKeyword? line).isSome = true := by
  constructor
  · rintro ⟨margin, keyword, gap, rest, rfl, hmargin, hkeyword, hgap⟩
    have hlength : keyword.length = "define".toList.length := by
      rw [← hkeyword, asciiLower, List.length_map]
    have hstart : trimStart (margin ++ (keyword ++ gap :: rest)) = keyword ++ gap :: rest := by
      obtain ⟨first, letters, rfl, hfirst⟩ := exists_keyword_eq_cons hkeyword
      rw [trimStart, List.dropWhile_append_of_pos hmargin]
      exact dropWhile_isBlank ⟨first, rfl, hfirst⟩
    rw [afterKeyword?, hstart, List.take_left' hlength, List.drop_left' hlength, if_pos hkeyword]
    dsimp only
    rw [if_pos hgap]
    rfl
  · intro h
    rw [afterKeyword?] at h
    split at h
    · rename_i hkeyword
      split at h
      · rename_i gap rest hdrop
        split at h
        · rename_i hgap
          refine ⟨line.takeWhile isBlank, _, gap, rest, ?_, ?_, hkeyword, hgap⟩
          · rw [← hdrop, List.take_append_drop]
            exact List.takeWhile_append_dropWhile.symm
          · exact fun c hc => List.mem_takeWhile_imp hc
        · cases h
      · cases h
    · cases h

theorem isEmpty_trim_iff : (trim line).isEmpty = true ↔ ∀ c ∈ line, isBlank c = true := by
  rw [List.isEmpty_iff, trim, trimEnd, List.reverse_eq_nil_iff, List.dropWhile_eq_nil_iff, trimStart]
  constructor
  · intro h c hc
    rw [← List.takeWhile_append_dropWhile (p := isBlank) (l := line)] at hc
    rcases List.mem_append.1 hc with hc | hc
    · exact List.mem_takeWhile_imp hc
    · exact h c (List.mem_reverse.2 hc)
  · intro h c hc
    exact h c ((List.dropWhile_sublist isBlank).subset (List.mem_reverse.1 hc))

theorem isComment_iff : IsComment line ↔ "--".toList.isPrefixOf line = true :=
  List.isPrefixOf_iff_prefix.symm

/-- A line with the keyword is not blank. -/
theorem exists_not_blank_of_hasKeyword (h : HasKeyword line) : ∃ c ∈ line, isBlank c = false := by
  obtain ⟨margin, keyword, gap, rest, rfl, -, hkeyword, -⟩ := h
  obtain ⟨first, letters, rfl, hfirst⟩ := exists_keyword_eq_cons hkeyword
  exact ⟨first, List.mem_append_right _ List.mem_cons_self, hfirst⟩

theorem isEmpty_trim_eq_false_iff : (trim line).isEmpty = false ↔ ∃ c ∈ line, isBlank c = false := by
  rw [← Bool.not_eq_true, isEmpty_trim_iff]
  simp only [not_forall, Bool.not_eq_true, exists_prop]

/-- A line is a define, a line of the body or skipped, and it is classified as such. -/
theorem classify_cases (line : List Char) :
    (IsDefine line ∧ ¬IsBody line ∧ ∃ rest, Line.classify line = .define rest) ∨
      (¬IsDefine line ∧ IsBody line ∧ Line.classify line = .body line) ∨
      (¬IsDefine line ∧ ¬IsBody line ∧ Line.classify line = .skipped) := by
  by_cases hcomment : IsComment line
  · have hskipped : Line.classify line = .skipped := by
      rw [Line.classify, isComment_iff.1 hcomment]
      rfl
    exact .inr (.inr ⟨fun h => h.1 hcomment, fun h => h.1 hcomment, hskipped⟩)
  have hprefix : "--".toList.isPrefixOf line = false := by
    rwa [isComment_iff, Bool.not_eq_true] at hcomment
  cases hblank : (trim line).isEmpty with
  | true =>
      have hskipped : Line.classify line = .skipped := by rw [Line.classify, hblank, Bool.or_true, if_pos rfl]
      have hnone : ¬∃ c ∈ line, isBlank c = false := by
        rw [← isEmpty_trim_eq_false_iff, hblank]
        decide
      exact .inr (.inr ⟨fun h => hnone (exists_not_blank_of_hasKeyword h.2), fun h => hnone h.2.2, hskipped⟩)
  | false =>
      cases hkeyword : afterKeyword? line with
      | some rest =>
          have hclass : Line.classify line = .define rest := by
            rw [Line.classify, hprefix, hblank, if_neg (by decide), hkeyword]
          have hdefine : HasKeyword line := hasKeyword_iff.2 (by rw [hkeyword]; rfl)
          exact .inl ⟨⟨hcomment, hdefine⟩, fun h => h.2.1 hdefine, rest, hclass⟩
      | none =>
          have hclass : Line.classify line = .body line := by
            rw [Line.classify, hprefix, hblank, if_neg (by decide), hkeyword]
          have hbody : ¬HasKeyword line := by
            rw [hasKeyword_iff, hkeyword]
            exact Bool.false_ne_true
          exact .inr (.inl ⟨fun h => hbody h.2, ⟨hcomment, hbody, isEmpty_trim_eq_false_iff.1 hblank⟩, hclass⟩)

end

instance : DecidablePred IsComment := fun _ => decidable_of_iff _ isComment_iff.symm

instance : DecidablePred HasKeyword := fun _ => decidable_of_iff _ hasKeyword_iff.symm

instance : DecidablePred IsDefine := fun line => inferInstanceAs (Decidable (¬IsComment line ∧ HasKeyword line))

instance : DecidablePred IsBody := fun line =>
  decidable_of_iff (¬IsComment line ∧ ¬HasKeyword line ∧ (trim line).isEmpty = false)
    (and_congr_right' (and_congr_right' isEmpty_trim_eq_false_iff))

end QueryVariants.Template
