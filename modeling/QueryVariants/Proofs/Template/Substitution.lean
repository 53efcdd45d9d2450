import Mathlib.Data.List.Find
import QueryVariants.Proofs.Template.FlatText

/-!
# Filling placeholders in one pass

`substitute` is what filling a template is meant to be: one pass from left to right, in which every
placeholder of a known name gives way to its value and nothing that has been written is read again. In a
flat text, with names and values without brackets, replacing one name after the other is the same.
-/

namespace QueryVariants.Template

open Text

/-- The entry whose placeholder begins a text. -/
def placeholderAt? (values : List (String × String)) (s : List Char) : Option (String × String) :=
  values.find? fun entry => (placeholder entry.1).isPrefixOf s

/-- Puts values in the place of their placeholders in one pass from left to right: what has been written
is not looked at again. -/
def substitute (values : List (String × String)) : List Char → List Char
  | [] => []
  | c :: rest =>
    match placeholderAt? values (c :: rest) with
    | some (name, value) =>
      value.toList ++ substitute values (rest.drop ((placeholder name).length - 1))
    | none => c :: substitute values rest
termination_by s => s.length
decreasing_by all_goals grind

/-- Replacing one placeholder everywhere is a pass with one value. -/
theorem replaceAll_placeholder (name value : String) (s : List Char) :
    replaceAll (placeholder name) value.toList s = substitute [(name, value)] s := by
  fun_induction replaceAll (placeholder name) value.toList s with
  | case1 => rw [substitute]
  | case2 c rest h ih => simp [substitute, placeholderAt?, h, ih]
  | case3 c rest h ih => simp [substitute, placeholderAt?, h, ih]

section

variable {values : List (String × String)} {c : Char} {s inside : List Char} (rest : List Char)

/-! ### One pass over the parts of a flat text -/

theorem placeholderAt?_cons (hc : c ≠ '[') : placeholderAt? values (c :: rest) = none := by
  rw [placeholderAt?, List.find?_eq_none]
  intro entry _
  rw [isPrefixOf_placeholder_cons _ hc]
  exact Bool.false_ne_true

theorem placeholderAt?_of_notMem (hs : ']' ∉ s) : placeholderAt? values s = none := by
  rw [placeholderAt?, List.find?_eq_none]
  intro entry _
  rw [isPrefixOf_placeholder_of_notMem hs]
  exact Bool.false_ne_true

theorem placeholderAt?_bracket (hnames : ∀ entry ∈ values, BracketFree entry.1.toList)
    (hinside : BracketFree inside) :
    placeholderAt? values ('[' :: inside ++ ']' :: rest) =
      values.find? fun entry => decide (entry.1.toList = inside) := by
  rw [placeholderAt?]
  refine List.find?_congr ?_
  intro entry hentry
  exact isPrefixOf_placeholder_bracket _ (hnames entry hentry).2 hinside.2

theorem substitute_cons (hc : c ≠ '[') :
    substitute values (c :: rest) = c :: substitute values rest := by
  rw [substitute, placeholderAt?_cons _ hc]

theorem substitute_append (hs : '[' ∉ s) :
    substitute values (s ++ rest) = s ++ substitute values rest := by
  induction s with
  | nil => rfl
  | cons c s ih =>
      obtain ⟨hc, hs⟩ := List.ne_and_not_mem_of_not_mem_cons hs
      rw [List.cons_append, substitute_cons _ (Ne.symm hc), ih hs, List.cons_append]

theorem substitute_of_notMem (hs : ']' ∉ s) : substitute values s = s := by
  induction s with
  | nil => rw [substitute]
  | cons c s ih =>
      rw [substitute, placeholderAt?_of_notMem hs]
      simp only [ih (List.not_mem_of_not_mem_cons hs)]

theorem substitute_bracket_of_some {name value : String}
    (hnames : ∀ entry ∈ values, BracketFree entry.1.toList) (hinside : BracketFree inside)
    (hfind : (values.find? fun entry => decide (entry.1.toList = inside)) = some (name, value)) :
    substitute values ('[' :: inside ++ ']' :: rest) = value.toList ++ substitute values rest := by
  have hat := placeholderAt?_bracket rest hnames hinside
  have hname : name.toList = inside := by simpa using List.find?_some hfind
  rw [hfind, List.cons_append] at hat
  rw [List.cons_append, substitute, hat]
  simp [placeholder, hname]

theorem substitute_bracket_of_none
    (hnames : ∀ entry ∈ values, BracketFree entry.1.toList) (hinside : BracketFree inside)
    (hfind : (values.find? fun entry => decide (entry.1.toList = inside)) = none) :
    substitute values ('[' :: inside ++ ']' :: rest) =
      '[' :: inside ++ ']' :: substitute values rest := by
  have hat := placeholderAt?_bracket rest hnames hinside
  have hplain : '[' ∉ inside ++ [']'] := by simp [hinside.1]
  have hrest : substitute values (inside ++ ']' :: rest) = inside ++ ']' :: substitute values rest := by
    simpa using substitute_append rest hplain
  rw [hfind, List.cons_append] at hat
  rw [List.cons_append, substitute, hat]
  simp only [hrest, List.cons_append]

theorem substitute_nil (s : List Char) : substitute [] s = s := by
  induction s with
  | nil => rw [substitute]
  | cons c s ih => rw [substitute, placeholderAt?, List.find?_nil, ih]

end

/-! ### One name after the other -/

section

variable {values : List (String × String)} {s : List Char}

theorem Segmented.append_left {rest : List Char} (hs : '[' ∉ s) (h : Segmented rest) :
    Segmented (s ++ rest) :=
  flat_iff_segmented.1 ((flat_iff_segmented.2 h).append_left hs)

/-- Values without brackets leave a text flat. -/
theorem segmented_substitute (hnames : ∀ entry ∈ values, BracketFree entry.1.toList)
    (hvalues : ∀ entry ∈ values, BracketFree entry.2.toList) (h : Segmented s) :
    Segmented (substitute values s) := by
  induction h with
  | ending hs =>
      rw [substitute_of_notMem hs]
      exact .ending hs
  | char hc _ ih =>
      rw [substitute_cons _ hc]
      exact .char hc ih
  | @bracket inside rest hinside _ ih =>
      cases hfind : values.find? fun entry => decide (entry.1.toList = inside) with
      | none =>
          rw [substitute_bracket_of_none _ hnames hinside hfind]
          exact .bracket hinside ih
      | some entry =>
          rw [substitute_bracket_of_some _ hnames hinside hfind]
          exact ih.append_left (hvalues entry (List.mem_of_find?_eq_some hfind)).1

/-- A pass takes away the placeholders of its own names and leaves those of all others. -/
theorem occurs_substitute {name : String} (hname : BracketFree name.toList)
    (hnames : ∀ entry ∈ values, BracketFree entry.1.toList)
    (hvalues : ∀ entry ∈ values, BracketFree entry.2.toList) (h : Segmented s) :
    occurs (placeholder name) (substitute values s) =
      (occurs (placeholder name) s && decide (name ∉ values.map Prod.fst)) := by
  induction h with
  | ending hs => rw [substitute_of_notMem hs, occurs_placeholder_of_notMem hs, Bool.false_and]
  | char hc _ ih =>
      rw [substitute_cons _ hc, occurs_placeholder_cons _ hc, occurs_placeholder_cons _ hc, ih]
  | @bracket inside rest hinside _ ih =>
      rw [occurs_placeholder_bracket _ hname.2 hinside]
      cases hfind : values.find? fun entry => decide (entry.1.toList = inside) with
      | none =>
          have hother : name.toList = inside → name ∉ values.map Prod.fst := by
            rintro rfl hmem
            obtain ⟨entry, hentry, rfl⟩ := List.mem_map.1 hmem
            simpa using List.find?_eq_none.1 hfind entry hentry
          rw [substitute_bracket_of_none _ hnames hinside hfind,
            occurs_placeholder_bracket _ hname.2 hinside, ih]
          by_cases hsame : name.toList = inside
          · simp [hsame, hother hsame]
          · simp [hsame]
      | some entry =>
          have hentry := List.mem_of_find?_eq_some hfind
          have hfirst : entry.1.toList = inside := by simpa using List.find?_some hfind
          rw [substitute_bracket_of_some _ hnames hinside hfind,
            occurs_placeholder_append _ (hvalues entry hentry).1, ih]
          by_cases hsame : name.toList = inside
          · have hmem : name ∈ values.map Prod.fst :=
              List.mem_map.2 ⟨entry, hentry, String.toList_inj.1 (hfirst.trans hsame.symm)⟩
            simp [hmem]
          · simp [hsame]

/-- A pass for one name and then a pass for others is a pass for all of them. -/
theorem substitute_substitute {name value : String} (hname : BracketFree name.toList)
    (hvalue : BracketFree value.toList) (hnames : ∀ entry ∈ values, BracketFree entry.1.toList)
    (h : Segmented s) :
    substitute values (substitute [(name, value)] s) = substitute ((name, value) :: values) s := by
  have hfirst : ∀ entry ∈ [(name, value)], BracketFree entry.1.toList := by simpa using hname
  have hall : ∀ entry ∈ (name, value) :: values, BracketFree entry.1.toList :=
    List.forall_mem_cons.2 ⟨hname, hnames⟩
  induction h with
  | ending hs => simp only [substitute_of_notMem hs]
  | char hc _ ih => rw [substitute_cons _ hc, substitute_cons _ hc, substitute_cons _ hc, ih]
  | @bracket inside rest hinside _ ih =>
      by_cases hsame : name.toList = inside
      · have hfound : ∀ others : List (String × String),
            (((name, value) :: others).find? fun entry => decide (entry.1.toList = inside)) =
              some (name, value) := by simp [hsame]
        rw [substitute_bracket_of_some _ hfirst hinside (hfound []),
          substitute_bracket_of_some _ hall hinside (hfound values), substitute_append _ hvalue.1, ih]
      · rw [substitute_bracket_of_none _ hfirst hinside (by simp [hsame])]
        have hskip : (((name, value) :: values).find? fun entry => decide (entry.1.toList = inside)) =
            values.find? fun entry => decide (entry.1.toList = inside) := by simp [hsame]
        cases hfind : values.find? fun entry => decide (entry.1.toList = inside) with
        | none =>
            rw [substitute_bracket_of_none _ hnames hinside hfind,
              substitute_bracket_of_none _ hall hinside (hskip.trans hfind), ih]
        | some entry =>
            rw [substitute_bracket_of_some _ hnames hinside hfind,
              substitute_bracket_of_some _ hall hinside (hskip.trans hfind), ih]

end

end QueryVariants.Template
