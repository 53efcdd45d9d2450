import QueryVariants.Proofs.Macro.Scanning
import QueryVariants.Proofs.Text.Cut

/-!
# Where argument lists are split

A list is split at the commas that a scan finds to separate. Texts that are neutral at every depth and
have no blanks at their ends can stand as arguments: a list of such texts is split exactly where they
were joined, and a call that is made of them is such a text again.
-/

namespace QueryVariants.Macro

open Text

/-! ### Splitting at a separator -/

section

variable {scan : Scan} {s rest : List Char}

/-- A comma that does not separate is a character like any other. -/
theorem splitFrom_cons {c : Char} (hc : (c ≠ ',' || !scan.atTop) = true) :
    splitFrom scan (c :: rest) = consFirst c (splitFrom (scan.step c) rest) := by
  by_cases h : c = ','
  · subst h
    have htop : scan.atTop = false := by simpa using hc
    have hstep : scan.step ',' = scan := rfl
    rw [splitFrom, htop, hstep]
    rfl
  · rw [splitFrom]
    exact h

theorem splitFrom_of_clean (hs : s ≠ []) (hclean : scan.clean s = true) : splitFrom scan s = [s] := by
  induction s generalizing scan with
  | nil => exact absurd rfl hs
  | cons c s ih =>
      obtain ⟨hc, hrest⟩ := Bool.and_eq_true_iff.1 hclean
      rw [splitFrom_cons hc]
      cases s with
      | nil => rw [splitFrom]; rfl
      | cons d s => rw [ih (List.cons_ne_nil d s) hrest]; rfl

theorem splitFrom_append_comma (hclean : scan.clean s = true) (htop : (scan.run s).atTop = true) :
    splitFrom scan (s ++ ',' :: rest) = s :: splitFrom (scan.run s) (dropSpaces rest) := by
  induction s generalizing scan with
  | nil =>
      have hscan : scan.atTop = true := htop
      rw [List.nil_append, splitFrom, if_pos hscan]
      rfl
  | cons c s ih =>
      obtain ⟨hc, hrest⟩ := Bool.and_eq_true_iff.1 hclean
      rw [List.cons_append, splitFrom_cons hc, ih hrest htop]
      rfl

/-- An argument that brings the scan back to rest is split off with the separator behind it. -/
theorem splitArguments_append_comma {arg : List Char} (h : Neutral 0 arg) (rest : List Char) :
    splitArguments (arg ++ ',' :: rest) = arg :: splitArguments (dropSpaces rest) := by
  have hclean : Scan.start.clean arg = true := h.clean
  have hback : Scan.start.run arg = Scan.start := h.back
  have htop : (Scan.start.run arg).atTop = true := by
    rw [hback]
    rfl
  rw [splitArguments, splitFrom_append_comma hclean htop, hback, ← splitArguments]

end

/-! ### Arguments -/

/-- A text that can stand in an argument list at any depth. -/
structure Argument (s : List Char) : Prop where
  trimmed : Trimmed s
  neutral : ∀ depth, 0 ≤ depth → Neutral depth s

def joinArguments (args : List (List Char)) : List Char :=
  List.intercalate ", ".toList args

/-- The written form of a call, or of another list of arguments between two texts. -/
def callChars (opening : List Char) (args : List (List Char)) (closing : Char) : List Char :=
  opening ++ joinArguments args ++ [closing]

namespace Argument

variable {s : List Char}

theorem ne_nil (h : Argument s) : s ≠ [] := by
  rintro rfl
  obtain ⟨c, hc, -⟩ := h.trimmed.head
  cases hc

theorem dropSpaces_append (h : Argument s) (rest : List Char) :
    dropSpaces (s ++ rest) = s ++ rest := by
  obtain ⟨c, hc, hblank⟩ := h.trimmed.head
  obtain ⟨tail, rfl⟩ := List.head?_eq_some_iff.1 hc
  have hspace : c ≠ ' ' := by
    rintro rfl
    exact absurd hblank (by decide)
  simp [dropSpaces, hspace]

theorem append {rest : List Char} (hs : Argument s) (hrest : Argument rest) :
    Argument (s ++ rest) := by
  refine ⟨hs.trimmed.append hrest.trimmed, ?_⟩
  intro depth hdepth
  exact (hs.neutral depth hdepth).append (hrest.neutral depth hdepth)

theorem of_plain (htrimmed : Trimmed s) (hs : Plain s) : Argument s :=
  ⟨htrimmed, fun _ _ => .of_plain hs⟩

theorem cons {c : Char} (hblank : isBlank c = false) (hmark : c ∉ marks) (hs : Argument s) :
    Argument (c :: s) := by
  have hplain : Plain [c] := by
    intro d hd
    rw [List.mem_singleton.1 hd]
    exact hmark
  exact append (.of_plain (.singleton hblank) hplain) hs

theorem of_isAlphanum (hs : s ≠ []) (h : s.all Char.isAlphanum = true) : Argument s :=
  .of_plain (.of_isAlphanum hs h) (plain_of_isAlphanum h)

theorem quoted (hs : '"' ∉ s) (hnesting : EvenlyNested s) : Argument ('"' :: s ++ ['"']) :=
  ⟨.enclosed s (by decide) (by decide), fun _ _ => .quoted hs hnesting⟩

end Argument

theorem joinArguments_cons_cons (a b : List Char) (rest : List (List Char)) :
    joinArguments (a :: b :: rest) = a ++ ',' :: ' ' :: joinArguments (b :: rest) := by
  rw [joinArguments, List.intercalate_cons_cons, List.append_assoc]
  rfl

section

variable {args : List (List Char)}

theorem dropSpaces_joinArguments {a : List Char} {rest : List (List Char)} (ha : Argument a) :
    dropSpaces (joinArguments (a :: rest)) = joinArguments (a :: rest) := by
  cases rest with
  | nil => simpa [joinArguments] using ha.dropSpaces_append []
  | cons b rest => rw [joinArguments_cons_cons, ha.dropSpaces_append]

/-- An argument is split off the list behind it, with the comma and the space. -/
theorem Argument.splitArguments_comma {a rest : List Char} (ha : Argument a)
    (hrest : dropSpaces rest = rest) :
    splitArguments (a ++ ',' :: ' ' :: rest) = a :: splitArguments rest := by
  have hspace : dropSpaces (' ' :: rest) = dropSpaces rest := rfl
  rw [splitArguments_append_comma (ha.neutral 0 (by decide)), hspace, hrest]

/-- A list of arguments is split where it was joined. -/
theorem splitArguments_joinArguments (h : ∀ arg ∈ args, Argument arg) :
    splitArguments (joinArguments args) = args := by
  induction args with
  | nil => rw [splitArguments, joinArguments, List.intercalate_nil, splitFrom]
  | cons a args ih =>
      obtain ⟨ha, hargs⟩ := List.forall_mem_cons.1 h
      cases args with
      | nil =>
          rw [splitArguments, joinArguments, List.intercalate_singleton]
          exact splitFrom_of_clean ha.ne_nil (ha.neutral 0 (by decide)).clean
      | cons b rest =>
          have hspace : dropSpaces (joinArguments (b :: rest)) = joinArguments (b :: rest) :=
            dropSpaces_joinArguments (hargs b List.mem_cons_self)
          rw [joinArguments_cons_cons, ha.splitArguments_comma hspace, ih hargs]

theorem neutral_joinArguments {depth : Int} (hdepth : 0 < depth) (h : ∀ arg ∈ args, Argument arg) :
    Neutral depth (joinArguments args) := by
  induction args with
  | nil => exact .nil
  | cons a args ih =>
      obtain ⟨ha, hargs⟩ := List.forall_mem_cons.1 h
      cases args with
      | nil => simpa [joinArguments] using ha.neutral depth (Int.le_of_lt hdepth)
      | cons b rest =>
          have hspace : Neutral depth [' '] := .of_plain (by decide)
          have hseparator := (Neutral.comma (Int.ne_of_gt hdepth)).append hspace
          rw [joinArguments_cons_cons]
          exact (ha.neutral depth (Int.le_of_lt hdepth)).append (hseparator.append (ih hargs))

/-- Between its two texts a call is split like any list. -/
theorem arguments?_callChars_eq (opening : List Char) (args : List (List Char)) (closing : Char) :
    arguments? opening [closing] (callChars opening args closing) =
      some ((splitArguments (joinArguments args)).map trim) := by
  have hopening : stripPrefix? opening (callChars opening args closing) =
      some (joinArguments args ++ [closing]) :=
    stripPrefix?_eq_some_iff.2 (List.append_assoc _ _ _)
  have hclosing : stripSuffix? [closing] (joinArguments args ++ [closing]) =
      some (joinArguments args) := stripSuffix?_eq_some_iff.2 rfl
  rw [arguments?, hopening, Option.bind_some, hclosing, Option.map_some]

/-- The arguments of a call are read off it. -/
theorem arguments?_callChars (opening : List Char) (closing : Char)
    (h : ∀ arg ∈ args, Argument arg) :
    arguments? opening [closing] (callChars opening args closing) = some args := by
  have htrim : args.map trim = args := by
    rw [List.map_congr_left fun arg harg => (h arg harg).trimmed.trim_eq, List.map_id']
  rw [arguments?_callChars_eq, splitArguments_joinArguments h, htrim]

/-- A list between an opening and a closing character is an argument in its turn. -/
theorem Argument.enclosed {opening closing : Char} (hopening : isOpening opening = true)
    (hclosing : isClosing closing = true) (h : ∀ arg ∈ args, Argument arg) :
    Argument (callChars [opening] args closing) := by
  have hfirst : isBlank opening = false := by
    rcases isOpening_iff.1 hopening with rfl | rfl <;> decide
  have hlast : isBlank closing = false := by
    rcases isClosing_iff.1 hclosing with rfl | rfl <;> decide
  refine ⟨.enclosed _ hfirst hlast, ?_⟩
  intro depth hdepth
  exact .enclosed hopening hclosing (neutral_joinArguments (by omega) h)

theorem Argument.call {word : List Char} (hne : word ≠ [])
    (hword : word.all Char.isAlphanum = true) (h : ∀ arg ∈ args, Argument arg) :
    Argument (callChars (word ++ ['(']) args ')') := by
  have harguments : Argument (callChars ['('] args ')') := .enclosed rfl rfl h
  have hcall := (Argument.of_isAlphanum hne hword).append harguments
  simpa [callChars] using hcall

end

end QueryVariants.Macro
