import QueryVariants.Proofs.Macro.Splitting

/-!
# Splitting undoes joining

At a comma that separates the scan is at rest, so the scan of a list starts afresh behind it, and each argument
can be scanned by itself. A text therefore falls apart in one way only: into arguments that bring the scan back
to rest, each with its comma and the spaces behind the comma, and a rest in which no comma separates.
-/

namespace QueryVariants.Macro

/-- Each of the given arguments followed by a comma and its number of spaces, and then the last argument. -/
def spacedText (last : List Char) : List (List Char × Nat) → List Char
  | [] => last
  | (arg, spaces) :: closed => arg ++ ',' :: (List.replicate spaces ' ' ++ spacedText last closed)

/-! ### Separators -/

theorem Scan.exists_separator (scan : Scan) (s : List Char) :
    scan.clean s = true ∨
      ∃ arg rest, s = arg ++ ',' :: rest ∧ scan.clean arg = true ∧ (scan.run arg).atTop = true := by
  induction s generalizing scan with
  | nil => exact .inl rfl
  | cons c s ih =>
      by_cases hseparates : c = ',' ∧ scan.atTop = true
      · obtain ⟨rfl, htop⟩ := hseparates
        exact .inr ⟨[], s, rfl, rfl, htop⟩
      · have hc : (c ≠ ',' || !scan.atTop) = true := by
          by_cases hcomma : c = ','
          · simpa [hcomma] using hseparates
          · simp [hcomma]
        rcases ih (scan.step c) with hclean | ⟨arg, rest, rfl, hclean, htop⟩
        · left
          rw [clean, hc, hclean]
          rfl
        · refine .inr ⟨c :: arg, rest, rfl, ?_, htop⟩
          rw [clean, hc, hclean]
          rfl

theorem Scan.eq_start_of_atTop {scan : Scan} (h : scan.atTop = true) : scan = .start := by
  obtain ⟨depth, quoted⟩ := scan
  simp only [atTop, Bool.and_eq_true, decide_eq_true_eq, Bool.not_eq_true'] at h
  obtain ⟨rfl, rfl⟩ := h
  rfl

/-! ### Spaces behind a separator -/

theorem dropSpaces_replicate_append {s : List Char} (h : s.head? ≠ some ' ') (spaces : Nat) :
    dropSpaces (List.replicate spaces ' ' ++ s) = s := by
  induction spaces with
  | zero =>
      cases s with
      | nil => rfl
      | cons c s =>
          have hc : c ≠ ' ' := fun hspace => h (congrArg some hspace)
          simp [dropSpaces, hc]
  | succ spaces ih => exact ih

theorem exists_replicate_append_dropSpaces (s : List Char) :
    ∃ spaces, s = List.replicate spaces ' ' ++ dropSpaces s := by
  induction s with
  | nil => exact ⟨0, rfl⟩
  | cons c s ih =>
      by_cases hspace : c = ' '
      · subst hspace
        obtain ⟨spaces, hs⟩ := ih
        exact ⟨spaces + 1, congrArg (' ' :: ·) hs⟩
      · exact ⟨0, by simp [dropSpaces, hspace]⟩

theorem head?_dropSpaces (s : List Char) : (dropSpaces s).head? ≠ some ' ' := by
  induction s with
  | nil => exact nofun
  | cons c s ih =>
      by_cases hspace : c = ' '
      · subst hspace
        exact ih
      · simp [dropSpaces, hspace]

theorem head?_spacedText {closed : List (List Char × Nat)} {last : List Char}
    (h : ∀ arg ∈ closed.map Prod.fst ++ [last], arg.head? ≠ some ' ') :
    (spacedText last closed).head? ≠ some ' ' := by
  rcases closed with _ | ⟨⟨arg, spaces⟩, closed⟩
  · exact h last (by simp)
  · have harg : arg.head? ≠ some ' ' := h arg (by simp)
    cases arg with
    | nil => simp [spacedText]
    | cons c arg => exact harg

/-! ### Both ways -/

/-- A rest without a separator is the last argument, unless it is empty. -/
theorem splitArguments_spacedText_of_clean {closed : List (List Char × Nat)} {last : List Char}
    (hneutral : ∀ arg ∈ closed.map Prod.fst, Neutral 0 arg) (hlast : Scan.start.clean last = true)
    (hspace : ∀ arg ∈ (closed.map Prod.fst ++ [last]).tail, arg.head? ≠ some ' ') :
    splitArguments (spacedText last closed) = closed.map Prod.fst ++ if last = [] then [] else [last] := by
  induction closed with
  | nil =>
      rw [spacedText, splitArguments]
      split
      · next hempty => rw [hempty, splitFrom]; rfl
      · next hne => exact splitFrom_of_clean hne hlast
  | cons first closed ih =>
      obtain ⟨arg, spaces⟩ := first
      obtain ⟨harg, hclosed⟩ := List.forall_mem_cons.1 hneutral
      have hrest : dropSpaces (List.replicate spaces ' ' ++ spacedText last closed) = spacedText last closed :=
        dropSpaces_replicate_append (head?_spacedText hspace) spaces
      have htail := ih hclosed fun arg harg => hspace arg (List.mem_of_mem_tail harg)
      rw [spacedText, splitArguments_append_comma harg, hrest, htail]
      rfl

theorem exists_spacedText (s : List Char) :
    ∃ closed last, s = spacedText last closed ∧ (∀ arg ∈ closed.map Prod.fst, Neutral 0 arg) ∧
      Scan.start.clean last = true ∧
      ∀ arg ∈ (closed.map Prod.fst ++ [last]).tail, arg.head? ≠ some ' ' := by
  induction hlength : s.length using Nat.strongRecOn generalizing s with
  | ind length ih =>
      rcases Scan.start.exists_separator s with hclean | ⟨arg, rest, rfl, hclean, htop⟩
      · exact ⟨[], s, rfl, List.forall_mem_nil _, hclean, List.forall_mem_nil _⟩
      · have hshorter : (dropSpaces rest).length < length := by
          have hle := (List.dropWhile_sublist (l := rest) fun c => decide (c = ' ')).length_le
          simp only [← hlength, dropSpaces, List.length_append, List.length_cons]
          omega
        obtain ⟨closed, last, hrest, hneutral, hlast, hspace⟩ := ih _ hshorter (dropSpaces rest) rfl
        obtain ⟨spaces, hspaces⟩ := exists_replicate_append_dropSpaces rest
        have harg : Neutral 0 arg := ⟨hclean, Scan.eq_start_of_atTop htop⟩
        refine ⟨(arg, spaces) :: closed, last, ?_, List.forall_mem_cons.2 ⟨harg, hneutral⟩, hlast, ?_⟩
        · rw [spacedText, ← hrest, ← hspaces]
        · -- What follows the separator begins with the next argument, or with the comma behind an empty one.
          have hfirst := head?_dropSpaces rest
          rw [hrest] at hfirst
          rcases closed with _ | ⟨⟨next, gap⟩, closed⟩
          · exact List.forall_mem_cons.2 ⟨hfirst, List.forall_mem_nil _⟩
          · refine List.forall_mem_cons.2 ⟨?_, hspace⟩
            cases next with
            | nil => simp
            | cons c next => exact hfirst

/-- **Splitting undoes joining.** Texts that bring a scan back to rest and hold no separator are split where
they were joined by commas, with any number of spaces behind each comma, if none but the first of them begins
with a space and the last is not empty; no text at all comes from the empty text. Conversely every text is
joined in this way from the arguments that it is split into, where the last of them need only be free of
separators, and an empty rest is left out. -/
theorem splitArguments_spacedText :
    splitArguments [] = [] ∧
    (∀ (closed : List (List Char × Nat)) (last : List Char),
      (∀ arg ∈ closed.map Prod.fst ++ [last], Neutral 0 arg) →
      (∀ arg ∈ (closed.map Prod.fst ++ [last]).tail, arg.head? ≠ some ' ') → last ≠ [] →
      splitArguments (spacedText last closed) = closed.map Prod.fst ++ [last]) ∧
    ∀ s : List Char, ∃ closed last, s = spacedText last closed ∧
      splitArguments s = (closed.map Prod.fst ++ if last = [] then [] else [last]) ∧
      (∀ arg ∈ closed.map Prod.fst, Neutral 0 arg) ∧ Scan.start.clean last = true ∧
      ∀ arg ∈ (closed.map Prod.fst ++ [last]).tail, arg.head? ≠ some ' ' := by
  refine ⟨by rw [splitArguments, splitFrom], ?_, ?_⟩
  · intro closed last hneutral hspace hne
    obtain ⟨hclosed, hlast⟩ := List.forall_mem_append.1 hneutral
    have hclean : Scan.start.clean last = true := (hlast last (List.mem_singleton_self last)).clean
    rw [splitArguments_spacedText_of_clean hclosed hclean hspace, if_neg hne]
  · intro s
    obtain ⟨closed, last, rfl, hneutral, hlast, hspace⟩ := exists_spacedText s
    exact ⟨closed, last, rfl, splitArguments_spacedText_of_clean hneutral hlast hspace, hneutral, hlast,
      hspace⟩

/-- An empty argument, nested commas, quoted ones, and spaces of several lengths. -/
theorem splitArguments_spacedText_four :
    splitArguments " random(1,5),  ,\"a, b\", \x7b,\x7d".toList =
      [" random(1,5)".toList, [], "\"a, b\"".toList, "\x7b,\x7d".toList] :=
  splitArguments_spacedText.2.1 [(" random(1,5)".toList, 2), ([], 0), ("\"a, b\"".toList, 1)]
    "\x7b,\x7d".toList
    (by
      have hneutral : ∀ arg : List Char, Scan.start.clean arg = true → Scan.start.run arg = .start →
          Neutral 0 arg := fun _ hclean hback => ⟨hclean, hback⟩
      simp only [List.map_cons, List.map_nil, List.cons_append, List.nil_append, List.forall_mem_cons]
      exact ⟨hneutral _ (by decide) (by decide), hneutral _ (by decide) (by decide),
        hneutral _ (by decide) (by decide), hneutral _ (by decide) (by decide), List.forall_mem_nil _⟩)
    (by decide) (by decide)

end QueryVariants.Macro
