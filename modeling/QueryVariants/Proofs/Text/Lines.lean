import QueryVariants.Text.Lines

/-!
# Lines of a text

A text that is put together from lines, each ended by a line feed, has exactly these lines, as long as
none of them holds a line feed or ends with the carriage return that belongs to the ending.
-/

namespace QueryVariants.Text

variable {line : List Char} {ls : List (List Char)} {c d : Char}

theorem mem_of_mem_consFirst (h : line ∈ consFirst c ls) (hd : d ∈ line) :
    d = c ∨ ∃ other ∈ ls, d ∈ other := by
  cases ls with
  | nil =>
      obtain rfl := List.mem_singleton.1 h
      exact .inl (List.mem_singleton.1 hd)
  | cons first rest =>
      rcases List.mem_cons.1 h with rfl | h
      · rcases List.mem_cons.1 hd with rfl | hd
        · exact .inl rfl
        · exact .inr ⟨first, List.mem_cons_self, hd⟩
      · exact .inr ⟨line, List.mem_cons_of_mem _ h, hd⟩

theorem newline_notMem_of_mem_lines {s : List Char} (h : line ∈ lines s) : '\n' ∉ line := by
  induction s using lines.induct generalizing line with
  | case1 => cases h
  | case2 rest ih =>
      rcases List.mem_cons.1 h with rfl | h
      · exact List.not_mem_nil
      · exact ih h
  | case3 rest ih =>
      rcases List.mem_cons.1 h with rfl | h
      · exact List.not_mem_nil
      · exact ih h
  | case4 c rest hnewline hreturn ih =>
      rw [lines] at h
      · intro hmem
        rcases mem_of_mem_consFirst h hmem with rfl | ⟨other, hother, hmem⟩
        · exact hnewline rfl
        · exact ih hother hmem
      · exact hnewline
      · exact hreturn

theorem lines_append_newline (rest : List Char) (hnewline : '\n' ∉ line)
    (hreturn : line.getLast? ≠ some '\r') : lines (line ++ '\n' :: rest) = line :: lines rest := by
  induction line with
  | nil => rfl
  | cons c line ih =>
      obtain ⟨hc, htext⟩ := List.ne_and_not_mem_of_not_mem_cons hnewline
      have hrest : line.getLast? ≠ some '\r' := by
        intro h
        apply hreturn
        rw [List.getLast?_cons, h]
        rfl
      rw [List.cons_append, lines, ih htext hrest]
      · rfl
      · exact Ne.symm hc
      · -- A carriage return before the line feed would be the last character of the line.
        rintro tail rfl htail
        cases line with
        | nil => exact hreturn rfl
        | cons d line =>
            obtain ⟨rfl, -⟩ := List.cons.inj htail
            exact htext List.mem_cons_self

theorem lines_flatMap {ls : List (List Char)} (hnewline : ∀ line ∈ ls, '\n' ∉ line)
    (hreturn : ∀ line ∈ ls, line.getLast? ≠ some '\r') :
    lines (ls.flatMap (· ++ ['\n'])) = ls := by
  induction ls with
  | nil => rfl
  | cons line ls ih =>
      obtain ⟨hline, hnewline⟩ := List.forall_mem_cons.1 hnewline
      obtain ⟨hlast, hreturn⟩ := List.forall_mem_cons.1 hreturn
      rw [List.flatMap_cons, List.append_assoc, List.singleton_append,
        lines_append_newline _ hline hlast, ih hnewline hreturn]

theorem map_snd_numberedLines (s : List Char) : (numberedLines s).map Prod.snd = lines s := by
  rw [numberedLines, List.map_map]
  exact List.zipIdx_map_fst 0 (lines s)

theorem splitOn_newline_cons (c : Char) (s : List Char) :
    (c :: s).splitOn '\n' =
      if c = '\n' then [] :: s.splitOn '\n' else (s.splitOn '\n').modifyHead (c :: ·) := by
  rw [List.splitOn, List.splitOnP_cons_eq_if_modifyHead]
  simp only [beq_iff_eq]
  rfl

/-- Without carriage returns the lines are what stands between the line feeds, up to an empty last piece. -/
theorem exists_splitOn_eq {s : List Char} (h : '\r' ∉ s) :
    ∃ ending, (ending = [] ∨ ending = [[]]) ∧ s.splitOn '\n' = lines s ++ ending := by
  induction s using lines.induct with
  | case1 => exact ⟨[[]], .inr rfl, rfl⟩
  | case2 rest ih =>
      obtain ⟨ending, hending, hrest⟩ := ih fun hmem => h (List.mem_cons_of_mem _ hmem)
      refine ⟨ending, hending, ?_⟩
      rw [splitOn_newline_cons, if_pos rfl, hrest]
      rfl
  | case3 rest ih => exact absurd List.mem_cons_self h
  | case4 c rest hnewline hreturn ih =>
      obtain ⟨ending, hending, hrest⟩ := ih fun hmem => h (List.mem_cons_of_mem _ hmem)
      have hlines : lines (c :: rest) = consFirst c (lines rest) := by
        rw [lines]
        · exact hnewline
        · exact hreturn
      rw [splitOn_newline_cons, if_neg hnewline, hrest, hlines]
      cases hfirst : lines rest with
      | nil =>
          -- The text consists of one line that is not ended.
          have hlast : ending = [[]] := by
            refine hending.resolve_left fun hnil => List.splitOn_ne_nil '\n' rest ?_
            rw [hrest, hfirst, hnil]
            rfl
          exact ⟨[], .inl rfl, by rw [hlast]; rfl⟩
      | cons line others => exact ⟨ending, hending, rfl⟩

end QueryVariants.Text
