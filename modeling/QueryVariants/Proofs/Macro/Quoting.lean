import QueryVariants.Proofs.Macro.RoundTrip

/-!
# How opaque a quoted text is

Quotes hide the commas of a text from the reader, but its parentheses and braces are counted all the same. A
text that closes as many as it opens leaves the depth as it was and is read as written. After any other text
the depth is off by what the text leaves open: the comma behind it does not separate any more, or it separates
one level too high. The argument with that text is then not the one that was written, and what the reader makes
of it has another text or is an error; if the whole list becomes one argument, it is a constant.
-/

namespace QueryVariants.Macro

open Text

section

variable {scan : Scan} {s rest : List Char}

/-- No piece ends in a text that holds no separator. -/
theorem splitFrom_append_of_clean (hs : s ≠ []) (hclean : scan.clean s = true) (rest : List Char) :
    ∃ tail pieces, splitFrom scan (s ++ rest) = (s ++ tail) :: pieces := by
  induction s generalizing scan with
  | nil => exact absurd rfl hs
  | cons c s ih =>
      obtain ⟨hc, hrest⟩ := Bool.and_eq_true_iff.1 hclean
      rw [List.cons_append, splitFrom_cons hc]
      by_cases hlast : s = []
      · subst hlast
        rcases splitFrom (scan.step c) ([] ++ rest) with _ | ⟨first, pieces⟩
        · exact ⟨[], [], rfl⟩
        · exact ⟨first, pieces, rfl⟩
      · obtain ⟨tail, pieces, hsplit⟩ := ih hlast hrest
        exact ⟨tail, pieces, by rw [hsplit]; rfl⟩

/-- A comma that does not separate stands in the first argument. -/
theorem exists_first_argument (hs : Trimmed s) (hclean : Scan.start.clean (s ++ [',']) = true)
    (rest : List Char) :
    ∃ tail args, (splitArguments (s ++ ',' :: rest)).map trim = (s ++ ',' :: tail) :: args := by
  obtain ⟨tail, pieces, hsplit⟩ := splitFrom_append_of_clean (by simp) hclean rest
  have htrimmed : Trimmed (s ++ [',']) := hs.append (.singleton (by decide))
  refine ⟨trimEnd tail, pieces.map trim, ?_⟩
  rw [splitArguments, List.append_cons, hsplit, List.map_cons, htrimmed.trim_append,
    ← List.append_cons]

end

/-! ### Texts that leave something open -/

section

variable {text : String} {depth : Int}

/-- Behind a quoted text the depth has changed by what the text leaves open. -/
theorem run_quotedChars (htext : '"' ∉ text.toList) (depth : Int) :
    (Scan.mk depth false).run (Expr.quotedChars text) =
      ⟨depth + (text.toList.countP isOpening : Nat) - (text.toList.countP isClosing : Nat), false⟩ := by
  rw [Expr.quotedChars, List.cons_append, Scan.run_cons, Scan.run_append]
  have hin : (Scan.mk depth false).step '"' = ⟨depth, true⟩ := rfl
  rw [hin, Scan.run_of_notMem_quote htext]
  rfl

theorem clean_quotedChars (htext : '"' ∉ text.toList) (depth : Int) :
    (Scan.mk depth false).clean (Expr.quotedChars text) = true := by
  have hin : (Scan.mk depth false).step '"' = ⟨depth, true⟩ := rfl
  rw [Expr.quotedChars, List.cons_append, Scan.clean, hin, Scan.clean_append,
    Scan.clean_of_quoted rfl htext, Scan.run_of_notMem_quote htext]
  rfl

theorem trimmed_quotedChars (text : String) : Trimmed (Expr.quotedChars text) :=
  .enclosed _ (by decide) (by decide)

/-- A comma behind a quoted text separates only if the text brings the scan back to the top. -/
theorem clean_quotedChars_comma (htext : '"' ∉ text.toList)
    (hopen : depth + (text.toList.countP isOpening : Nat) - (text.toList.countP isClosing : Nat) ≠ 0) :
    (Scan.mk depth false).clean (Expr.quotedChars text ++ [',']) = true := by
  rw [Scan.clean_append, clean_quotedChars htext, run_quotedChars htext]
  simp [Scan.clean, Scan.atTop, hopen]

end

/-! ### What is read instead -/

section

variable {text : String} {option : String × Nat} {source : String}

/-- Behind its closing quote the argument goes on, so its text is not the one between the quotes. -/
theorem unquote_quotedChars_append_ne (htext : '"' ∉ text.toList) (rest : List Char) :
    String.ofList (unquote (Expr.quotedChars text ++ ',' :: rest)) ≠ text := by
  intro h
  have hquote : '"' ∈ unquote (Expr.quotedChars text ++ ',' :: rest) := by
    rw [Expr.quotedChars, List.cons_append, List.cons_append, unquote]
    rcases hstrip : stripSuffix? ['"'] (text.toList ++ ['"'] ++ ',' :: rest) with _ | found
    · exact List.mem_cons_self
    · have hfound : found = text.toList ++ ['"'] ++ (',' :: rest).dropLast := by
        rw [← List.dropLast_append_of_ne_nil (List.cons_ne_nil ',' rest),
          stripSuffix?_eq_some_iff.1 hstrip, List.dropLast_concat]
      rw [Option.getD_some, hfound]
      simp
  rw [← h, String.toList_ofList] at htext
  exact htext hquote

theorem exists_of_readOption {s : List Char} (h : readOption source s = .ok option) :
    ∃ inner value weight, s = '\x7b' :: inner ++ ['\x7d'] ∧
      (splitArguments inner).map trim = [value, weight] ∧ String.ofList (unquote value) = option.1 := by
  unfold readOption at h
  split at h
  · rename_i value weight hargs
    obtain ⟨_, -, hoption⟩ := Result.map_eq_ok_iff.1 h
    simp only [arguments?, Option.map_eq_some_iff, Option.bind_eq_some_iff] at hargs
    obtain ⟨inner, ⟨body, hbody, hinner⟩, hpieces⟩ := hargs
    obtain rfl := stripSuffix?_eq_some_iff.1 hinner
    obtain rfl := stripPrefix?_eq_some_iff.1 hbody
    exact ⟨inner, value, weight, rfl, hpieces, congrArg Prod.fst hoption⟩
  · cases h

/-- Inside the braces of an option no comma separates a text from its weight if the text leaves something
open. -/
theorem readOption_ne_of_comma (htext : '"' ∉ option.1.toList) (hopen : ¬EvenlyNested option.1.toList)
    (rest : List Char) :
    readOption source ('\x7b' :: Expr.quotedChars option.1 ++ ',' :: rest) ≠ .ok option := by
  intro h
  obtain ⟨inner, value, weight, hchars, hpieces, hvalue⟩ := exists_of_readOption h
  have hbody : Expr.quotedChars option.1 ++ ',' :: rest = inner ++ ['\x7d'] := (List.cons.inj hchars).2
  -- The closing brace is not the comma, so the comma belongs to the list inside.
  obtain ⟨more, rfl⟩ : ∃ more, inner = Expr.quotedChars option.1 ++ ',' :: more := by
    rcases List.eq_nil_or_concat rest with rfl | ⟨more, last, rfl⟩
    · exact absurd (List.append_inj_right' hbody rfl) (by decide)
    · rw [List.concat_eq_append, ← List.cons_append, ← List.append_assoc] at hbody
      exact ⟨more, (List.append_inj_left' hbody rfl).symm⟩
  have hclean : Scan.start.clean (Expr.quotedChars option.1 ++ [',']) = true := by
    refine clean_quotedChars_comma htext ?_
    unfold EvenlyNested at hopen
    omega
  obtain ⟨tail, args, hfirst⟩ := exists_first_argument (trimmed_quotedChars option.1) hclean more
  obtain ⟨rfl, -⟩ := List.cons.inj (hpieces.symm.trans hfirst)
  exact unquote_quotedChars_append_ne htext tail hvalue

/-- An option whose text leaves something open is not read from the list that it stands first in. -/
theorem readOption_ne_of_open (source : String) (htext : '"' ∉ option.1.toList)
    (hopen : ¬EvenlyNested option.1.toList) (rest : List Char) :
    ∃ first args, (splitArguments (Expr.optionChars option ++ rest)).map trim = first :: args ∧
      readOption source first ≠ .ok option := by
  have hchars : Expr.optionChars option ++ rest =
      ('\x7b' :: Expr.quotedChars option.1) ++ ',' :: (' ' :: natDigits option.2 ++ ['\x7d'] ++ rest) := by
    simp [Expr.optionChars]
  have hin : Scan.start.step '\x7b' = ⟨1, false⟩ := rfl
  have htrimmed : Trimmed ('\x7b' :: Expr.quotedChars option.1) := .enclosed _ (by decide) (by decide)
  have hclean : Scan.start.clean ('\x7b' :: Expr.quotedChars option.1) = true := by
    rw [Scan.clean, hin, clean_quotedChars htext]
    rfl
  rw [hchars]
  by_cases htop : (1 : Int) + (option.1.toList.countP isOpening : Nat) -
      (option.1.toList.countP isClosing : Nat) = 0
  · -- The text closes the brace of its option, and the argument ends with its quote.
    have hscan : (Scan.start.run ('\x7b' :: Expr.quotedChars option.1)).atTop = true := by
      rw [Scan.run_cons, hin, run_quotedChars htext, htop]
      rfl
    refine ⟨_, _, by rw [splitArguments, splitFrom_append_comma hclean hscan]; rfl, ?_⟩
    rw [htrimmed.trim_eq]
    intro h
    obtain ⟨inner, -, -, hbrace, -, -⟩ := exists_of_readOption h
    exact absurd (List.append_inj_right' (List.cons.inj hbrace).2 rfl) (by decide)
  · have hcomma : Scan.start.clean (('\x7b' :: Expr.quotedChars option.1) ++ [',']) = true := by
      rw [List.cons_append, Scan.clean, hin, clean_quotedChars_comma htext htop]
      rfl
    obtain ⟨tail, args, hfirst⟩ := exists_first_argument htrimmed hcomma
      (' ' :: natDigits option.2 ++ ['\x7d'] ++ rest)
    exact ⟨_, _, hfirst, readOption_ne_of_comma htext hopen tail⟩

/-! ### Lists of options -/

theorem exists_joined_options (option : String × Nat) (options : List (String × Nat)) :
    ∃ rest, joinArguments ((option :: options).map Expr.optionChars) = Expr.optionChars option ++ rest := by
  cases options with
  | nil => exact ⟨[], by simp [joinArguments]⟩
  | cons other options =>
      rw [List.map_cons, List.map_cons, joinArguments_cons_cons]
      exact ⟨_, rfl⟩

/-- An option whose text closes what it opens is split off the list, whatever the other texts are. -/
theorem splitArguments_joined_options (htext : WritableText option.1) (other : String × Nat)
    (options : List (String × Nat)) :
    splitArguments (joinArguments ((option :: other :: options).map Expr.optionChars)) =
      Expr.optionChars option ::
        splitArguments (joinArguments ((other :: options).map Expr.optionChars)) := by
  have hargument : Argument (Expr.optionChars option) := by
    rw [optionChars_eq]
    exact .enclosed rfl rfl (arguments_option htext)
  have hspace : dropSpaces (joinArguments ((other :: options).map Expr.optionChars)) =
      joinArguments ((other :: options).map Expr.optionChars) := by
    obtain ⟨rest, hrest⟩ := exists_joined_options other options
    rw [hrest]
    rfl
  rw [List.map_cons, List.map_cons, joinArguments_cons_cons, ← List.map_cons,
    hargument.splitArguments_comma hspace]

/-- Options are read from where they were joined only if each of their texts closes what it opens. -/
theorem evenlyNested_of_mapM_readOption {options : List (String × Nat)}
    (htexts : ∀ option ∈ options, '"' ∉ option.1.toList)
    (h : ((splitArguments (joinArguments (options.map Expr.optionChars))).map trim).mapM
      (readOption source) = .ok options) :
    ∀ option ∈ options, EvenlyNested option.1.toList := by
  induction options with
  | nil => exact fun option hoption => nomatch hoption
  | cons option options ih =>
      obtain ⟨htext, hothers⟩ := List.forall_mem_cons.1 htexts
      have heven : EvenlyNested option.1.toList := by
        by_contra hopen
        obtain ⟨rest, hrest⟩ := exists_joined_options option options
        obtain ⟨first, args, hargs, hne⟩ := readOption_ne_of_open source htext hopen rest
        rw [hrest, hargs, List.mapM_cons] at h
        obtain ⟨found, hfound, h⟩ := Result.bind_eq_ok_iff.1 h
        obtain ⟨others, -, h⟩ := Result.bind_eq_ok_iff.1 h
        obtain ⟨rfl, -⟩ := List.cons.inj (Except.ok.inj h)
        exact hne hfound
      refine List.forall_mem_cons.2 ⟨heven, ?_⟩
      cases options with
      | nil => exact fun option hoption => nomatch hoption
      | cons other options =>
          apply ih hothers
          rw [splitArguments_joined_options ⟨htext, heven⟩, List.map_cons, List.mapM_cons] at h
          obtain ⟨found, -, h⟩ := Result.bind_eq_ok_iff.1 h
          obtain ⟨others, hread, h⟩ := Result.bind_eq_ok_iff.1 h
          obtain ⟨-, rfl⟩ := List.cons.inj (Except.ok.inj h)
          exact hread

end

/-! ### Whole expressions -/

section

variable {registry : Registry} {text : String} {count : Nat} {options : List (String × Nat)}

theorem parse_ofList {s : List Char} (hs : Trimmed s) :
    Expr.parse (String.ofList s) registry = readExpr registry (String.ofList s) s := by
  rw [Expr.parse, String.toList_ofList, hs.trim_eq]

theorem trimmed_callChars {c closing : Char} (word : List Char) (args : List (List Char))
    (hc : isBlank c = false) (hclosing : isBlank closing = false) :
    Trimmed (callChars (c :: word) args closing) := by
  have h := Trimmed.enclosed (word ++ joinArguments args) hc hclosing
  rwa [← List.cons_append] at h

theorem trimmed_choice (options : List (String × Nat)) : Trimmed (Expr.choice options).chars := by
  rw [chars_choice]
  exact trimmed_callChars "ext(".toList _ (by decide) (by decide)

theorem trimmed_list (inner : Expr) (count : Nat) : Trimmed (Expr.list inner count).chars := by
  rw [chars_list]
  exact trimmed_callChars "list(".toList _ (by decide) (by decide)

theorem evenlyNested_of_parse_choice (htexts : ∀ option ∈ options, '"' ∉ option.1.toList)
    (h : Expr.parse (Expr.choice options).render registry = .ok (.choice options)) :
    ∀ option ∈ options, EvenlyNested option.1.toList := by
  have hargs : arguments? "text(".toList [')'] (Expr.choice options).chars =
      some ((splitArguments (joinArguments (options.map Expr.optionChars))).map trim) := by
    rw [chars_choice]
    exact arguments?_callChars_eq _ _ _
  rw [Expr.render, parse_ofList (trimmed_choice options), readExpr_of_text rfl, readText, hargs] at h
  split at h
  · cases h
  · cases h
  · -- A single argument is a constant, and no choice.
    cases Except.ok.inj h
  · rename_i heq
    obtain ⟨found, hread, h⟩ := Result.bind_eq_ok_iff.1 h
    dsimp only at h
    split at h
    · obtain rfl := Expr.choice.inj (Except.ok.inj h)
      obtain rfl := Option.some.inj heq
      exact evenlyNested_of_mapM_readOption htexts hread
    · cases h

/-- A list whose text leaves something open has one argument only. -/
theorem arguments?_list_of_open (htext : '"' ∉ text.toList) (hopen : ¬EvenlyNested text.toList) (count : Nat) :
    ∃ arg, arguments? "ulist(".toList [')'] (Expr.list (.text text) count).chars = some [arg] := by
  have hjoined : joinArguments [(Expr.text text).chars, natDigits count] =
      (Expr.quotedChars text ++ [',']) ++ ' ' :: natDigits count := by
    change joinArguments [Expr.quotedChars text, natDigits count] = _
    rw [joinArguments_cons_cons, List.append_cons, joinArguments, List.intercalate_singleton]
  have hcomma : Scan.start.clean (Expr.quotedChars text ++ [',']) = true :=
    clean_quotedChars_comma htext (by unfold EvenlyNested at hopen; omega)
  have hcount : ',' ∉ ' ' :: natDigits count := by
    intro hmem
    rcases List.mem_cons.1 hmem with hspace | hdigit
    · exact absurd hspace (by decide)
    · exact absurd (isDigit_of_mem_natDigits hdigit) (by decide)
  have hclean : Scan.start.clean ((Expr.quotedChars text ++ [',']) ++ ' ' :: natDigits count) = true := by
    rw [Scan.clean_append, hcomma, Scan.clean_of_notMem_comma hcount]
    rfl
  refine ⟨trim ((Expr.quotedChars text ++ [',']) ++ ' ' :: natDigits count), ?_⟩
  rw [chars_list]
  refine (arguments?_callChars_eq _ _ _).trans ?_
  rw [hjoined, splitArguments, splitFrom_of_clean (by simp) hclean]
  rfl

theorem evenlyNested_of_parse_list (htext : '"' ∉ text.toList)
    (h : Expr.parse (Expr.list (.text text) count).render registry = .ok (.list (.text text) count)) :
    EvenlyNested text.toList := by
  by_contra hopen
  obtain ⟨arg, hargs⟩ := arguments?_list_of_open htext hopen count
  have hform : Form.of (Expr.list (.text text) count).chars = .list := rfl
  rw [Expr.render, parse_ofList (trimmed_list _ _), readExpr, hform] at h
  dsimp only at h
  split at h
  · rename_i hpair
    have hlength := congrArg List.length (Option.some.inj (hargs.symm.trans hpair))
    simp at hlength
  · cases h

end

/-- **How opaque a quoted text is.** A choice of at least two quoted texts, with a total weight of 64 bits, is
read as exactly these texts and weights if and only if each of the texts closes as many parentheses and braces,
taken together, as it opens; what else stands in them does not matter. A list of a quoted text is read as that
list under the same condition. -/
theorem parse_quoted_iff (registry : Registry) :
    (∀ options : List (String × Nat), 2 ≤ options.length →
      (∀ option ∈ options, '"' ∉ option.1.toList) →
      1 ≤ Weights.total (options.map Prod.snd) → Weights.total (options.map Prod.snd) < UInt64.size →
      (Expr.parse (Expr.choice options).render registry = .ok (.choice options) ↔
        ∀ option ∈ options, EvenlyNested option.1.toList)) ∧
    (∀ (text : String) (count : Nat), '"' ∉ text.toList → count ≤ maxListCount →
      (Expr.parse (Expr.list (.text text) count).render registry = .ok (.list (.text text) count) ↔
        EvenlyNested text.toList)) := by
  constructor
  · intro options hmany htexts hlow hhigh
    refine ⟨evenlyNested_of_parse_choice htexts, fun heven => ?_⟩
    have hwritable : ∀ option ∈ options, WritableText option.1 :=
      fun option hoption => ⟨htexts option hoption, heven option hoption⟩
    rw [Expr.render, parse_ofList (trimmed_choice options), readExpr_of_text rfl]
    exact readText_chars hmany hwritable hlow hhigh
  · intro text count htext hcount
    refine ⟨evenlyNested_of_parse_list htext, fun heven => ?_⟩
    have hargument : Argument (Expr.text text).chars := .quoted htext heven
    have hargs : arguments? "ulist(".toList [')'] (Expr.list (.text text) count).chars =
        some [(Expr.text text).chars, natDigits count] := by
      rw [chars_list]
      exact arguments?_callChars _ _ (arguments_list hargument count)
    rw [Expr.render, parse_ofList (trimmed_list _ _)]
    exact readExpr_of_list rfl hargs (readUnsigned?_natDigits (Nat.lt_of_le_of_lt hcount (by decide)))
      hcount (readExpr_quotedChars text)

/-- Texts with commas, parentheses and braces in any order. -/
theorem parse_quoted_disordered :
    Expr.parse (Expr.choice [(")a, \x7b", 2), ("", 0), ("\x7d,(b", 1)]).render .empty =
        .ok (.choice [(")a, \x7b", 2), ("", 0), ("\x7d,(b", 1)]) ∧
      Expr.parse (Expr.list (.text "\x7d,(b") 3).render .empty = .ok (.list (.text "\x7d,(b") 3) := by
  obtain ⟨hchoice, hlist⟩ := parse_quoted_iff .empty
  exact ⟨(hchoice [(")a, \x7b", 2), ("", 0), ("\x7d,(b", 1)] (by decide) (by decide) (by decide) (by decide)).2
    (by decide), (hlist "\x7d,(b" 3 (by decide) (by decide)).2 (by decide)⟩

/-- One parenthesis inside a quoted text, and the choices become one constant: the closing brace behind it
brings the depth back to one only, where no comma separates. -/
theorem parse_quoted_parenthesis :
    (Expr.choice [("a(", 1), ("b", 2)]).render = "text(\x7b\"a(\", 1\x7d, \x7b\"b\", 2\x7d)" ∧
      Expr.parse (Expr.choice [("a(", 1), ("b", 2)]).render .empty =
        .ok (.text "\x7b\"a(\", 1\x7d, \x7b\"b\", 2\x7d") := by
  have hsplit : splitArguments "\x7b\"a(\", 1\x7d, \x7b\"b\", 2\x7d".toList =
      ["\x7b\"a(\", 1\x7d, \x7b\"b\", 2\x7d".toList] := splitFrom_of_clean (by decide) (by decide)
  have hargs : arguments? "text(".toList [')'] (Expr.choice [("a(", 1), ("b", 2)]).chars =
      some ["\x7b\"a(\", 1\x7d, \x7b\"b\", 2\x7d".toList] := by
    rw [chars_choice]
    refine (arguments?_callChars_eq _ _ _).trans ?_
    exact congrArg (fun pieces => some (pieces.map trim)) hsplit
  refine ⟨by decide, ?_⟩
  rw [Expr.render, parse_ofList (trimmed_choice _), readExpr_of_text rfl, readText, hargs]
  rfl

end QueryVariants.Macro
