import QueryVariants.Proofs.Text.Cut
import QueryVariants.Template.Expand

/-!
# Flat texts and their placeholders

Filling placeholders rewrites a text again and again. Where brackets do not nest, this is easy to follow:
a text is then a sequence of plain characters, of bracketed names, and of an ending without a closing
bracket. Putting values without brackets in the place of some of the names leaves the other names
where they are, and creates none.
-/

namespace QueryVariants.Template

open Text

def BracketFree (s : List Char) : Prop := '[' ∉ s ∧ ']' ∉ s

instance (s : List Char) : Decidable (BracketFree s) :=
  inferInstanceAs (Decidable (_ ∧ _))

/-- Between an opening bracket and the next closing one there is no other opening bracket. -/
def Flat (s : List Char) : Prop :=
  ∀ before inside after, s = before ++ '[' :: inside ++ ']' :: after →
    ']' ∉ inside → '[' ∉ inside

/-- The parts of a flat text from left to right. -/
inductive Segmented : List Char → Prop
  | ending {s : List Char} (hs : ']' ∉ s) : Segmented s
  | char {c : Char} {rest : List Char} (hc : c ≠ '[') (hrest : Segmented rest) :
    Segmented (c :: rest)
  | bracket {inside rest : List Char} (hinside : BracketFree inside) (hrest : Segmented rest) :
    Segmented ('[' :: inside ++ ']' :: rest)

theorem Flat.of_append {s rest : List Char} (h : Flat (s ++ rest)) : Flat rest := by
  intro before inside after heq
  refine h (s ++ before) inside after ?_
  simp [heq]

theorem Flat.segmented {s : List Char} (h : Flat s) : Segmented s := by
  induction hlength : s.length using Nat.strongRecOn generalizing s with
  | ind n ih =>
      subst hlength
      cases s with
      | nil => exact .ending (by simp)
      | cons c rest =>
          by_cases hc : c = '['
          -- A bracket that is closed encloses a text without brackets, and the rest is flat again.
          · subst hc
            by_cases hclose : ']' ∈ rest
            · obtain ⟨inside, after, rfl, hinside⟩ := List.eq_append_cons_of_mem hclose
              have hfree : BracketFree inside := ⟨h [] inside after rfl hinside, hinside⟩
              have hafter : Flat after := by
                apply Flat.of_append (s := '[' :: inside ++ [']'])
                simpa using h
              exact .bracket hfree (ih _ (by simp; omega) hafter rfl)
            · exact .ending (by simpa using hclose)
          · exact .char hc (ih _ (by simp) (Flat.of_append (s := [c]) h) rfl)

theorem Flat.of_notMem {s : List Char} (hs : ']' ∉ s) : Flat s := by
  rintro before inside after rfl
  simp at hs

theorem Flat.cons {c : Char} {rest : List Char} (hc : c ≠ '[') (h : Flat rest) :
    Flat (c :: rest) := by
  intro before inside after heq
  cases before with
  | nil => exact absurd (List.cons.inj heq).1 hc
  | cons d before => exact h before inside after (List.cons.inj heq).2

theorem Flat.append_left {s rest : List Char} (hs : '[' ∉ s) (h : Flat rest) : Flat (s ++ rest) := by
  induction s with
  | nil => exact h
  | cons c s ih =>
      obtain ⟨hc, hs⟩ := List.ne_and_not_mem_of_not_mem_cons hs
      exact Flat.cons (Ne.symm hc) (ih hs)

theorem Flat.bracket {inside rest : List Char} (hinside : BracketFree inside) (h : Flat rest) :
    Flat ('[' :: inside ++ ']' :: rest) := by
  intro before other after heq hother
  cases before with
  | nil =>
      have hsame : inside ++ ']' :: rest = other ++ ']' :: after := by simpa using heq
      have hcut := congrArg (List.takeWhile (· ≠ ']')) hsame
      rw [takeWhile_ne_append_cons rest hinside.2, takeWhile_ne_append_cons after hother] at hcut
      exact hcut ▸ hinside.1
  | cons d before =>
      have hskip : Flat (inside ++ ']' :: rest) := by
        have hplain : '[' ∉ inside ++ [']'] := by simp [hinside.1]
        simpa using h.append_left hplain
      exact hskip before other after (List.cons.inj heq).2 hother

/-- The parts are exactly what flatness allows. -/
theorem flat_iff_segmented {s : List Char} : Flat s ↔ Segmented s := by
  constructor
  · exact Flat.segmented
  · intro h
    induction h with
    | ending hs => exact .of_notMem hs
    | char hc _ ih => exact .cons hc ih
    | bracket hinside _ ih => exact .bracket hinside ih

/-! ### Where a placeholder begins -/

section

variable {name : String} {c : Char} {s inside : List Char} (rest : List Char)

theorem isPrefixOf_placeholder_cons (hc : c ≠ '[') :
    (placeholder name).isPrefixOf (c :: rest) = false := by
  simp only [placeholder, List.cons_append, List.isPrefixOf_cons_cons, beq_eq_false_iff_ne.2 hc.symm,
    Bool.false_and]

theorem isPrefixOf_placeholder_of_notMem (hs : ']' ∉ s) :
    (placeholder name).isPrefixOf s = false := by
  rw [Bool.eq_false_iff]
  intro h
  obtain ⟨rest, rfl⟩ := List.isPrefixOf_iff_prefix.1 h
  simp [placeholder] at hs

theorem isPrefixOf_placeholder_bracket (hname : ']' ∉ name.toList) (hinside : ']' ∉ inside) :
    (placeholder name).isPrefixOf ('[' :: inside ++ ']' :: rest) = decide (name.toList = inside) := by
  rw [Bool.eq_iff_iff, List.isPrefixOf_iff_prefix, decide_eq_true_iff]
  constructor
  · rintro ⟨tail, htail⟩
    have hsame : name.toList ++ ']' :: tail = inside ++ ']' :: rest := by
      simpa [placeholder] using htail
    rw [← takeWhile_ne_append_cons tail hname, hsame, takeWhile_ne_append_cons rest hinside]
  · rintro rfl
    exact ⟨rest, by simp [placeholder]⟩

theorem occurs_placeholder_cons (hc : c ≠ '[') :
    occurs (placeholder name) (c :: rest) = occurs (placeholder name) rest := by
  rw [occurs, isPrefixOf_placeholder_cons _ hc, Bool.false_or]

theorem occurs_placeholder_append (hs : '[' ∉ s) :
    occurs (placeholder name) (s ++ rest) = occurs (placeholder name) rest := by
  induction s with
  | nil => rfl
  | cons c s ih =>
      obtain ⟨hc, hs⟩ := List.ne_and_not_mem_of_not_mem_cons hs
      rw [List.cons_append, occurs_placeholder_cons _ (Ne.symm hc), ih hs]

theorem occurs_placeholder_of_notMem (hs : ']' ∉ s) : occurs (placeholder name) s = false := by
  induction s with
  | nil => rfl
  | cons c s ih =>
      rw [occurs, isPrefixOf_placeholder_of_notMem hs, Bool.false_or,
        ih (List.not_mem_of_not_mem_cons hs)]

theorem occurs_placeholder_bracket (hname : ']' ∉ name.toList) (hinside : BracketFree inside) :
    occurs (placeholder name) ('[' :: inside ++ ']' :: rest) =
      (decide (name.toList = inside) || occurs (placeholder name) rest) := by
  have hskip : occurs (placeholder name) (inside ++ ']' :: rest) =
      occurs (placeholder name) rest := by
    have h : '[' ∉ inside ++ [']'] := by simp [hinside.1]
    simpa using occurs_placeholder_append rest h
  rw [← hskip, ← isPrefixOf_placeholder_bracket rest hname hinside.2]
  rfl

end

end QueryVariants.Template
