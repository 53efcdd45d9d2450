import QueryVariants.Proofs.Macro.Writable

/-!
# The shape of written forms

The written form of an expression is a call with the written forms of its operands as arguments, a bare
text, or two of these side by side. Each way to put it together makes an argument again, so by induction
every written form can stand in every argument list.
-/

namespace QueryVariants.Macro

open Text

/-! ### Written forms as calls -/

theorem optionChars_eq (option : String × Nat) :
    Expr.optionChars option =
      callChars ['\x7b'] [Expr.quotedChars option.1, natDigits option.2] '\x7d' := by
  simp [Expr.optionChars, callChars, joinArguments, List.intercalate]

theorem chars_rowCount (relation : String) :
    (Expr.rowCount relation).chars =
      callChars ("rowcount".toList ++ ['(']) [Expr.quotedChars relation] ')' := by
  change "rowcount(".toList ++ Expr.quotedChars relation ++ [')'] = _
  simp [callChars, joinArguments]

theorem chars_random (start stop : Expr) :
    (Expr.random start stop).chars =
      callChars ("random".toList ++ ['(']) [start.chars, stop.chars, "uniform".toList] ')' := by
  change "random(".toList ++ start.chars ++ ", ".toList ++ stop.chars ++ ", uniform)".toList = _
  simp [callChars, joinArguments, List.intercalate]

theorem chars_list (inner : Expr) (count : Nat) :
    (Expr.list inner count).chars =
      callChars ("ulist".toList ++ ['(']) [inner.chars, natDigits count] ')' := by
  change "ulist(".toList ++ inner.chars ++ ", ".toList ++ natDigits count ++ [')'] = _
  simp [callChars, joinArguments, List.intercalate]

theorem chars_date (first last : Expr) (kind : DateKind) :
    (Expr.date first last kind).chars =
      callChars ("date".toList ++ ['(']) [first.chars, last.chars, kind.name.toList] ')' := by
  change "date(".toList ++ first.chars ++ ", ".toList ++ last.chars ++ ", ".toList ++
    kind.name.toList ++ [')'] = _
  simp [callChars, joinArguments, List.intercalate]

theorem chars_divide (inner : Expr) (divisor : Nat) :
    (Expr.divide inner divisor).chars = inner.chars ++ '/' :: natDigits divisor := by
  change inner.chars ++ '/' :: (toString (divisor : Int)).toList = _
  rw [Int.toString_eq_repr, Int.repr_eq_if, if_pos (Int.natCast_nonneg divisor),
    Int.toNat_natCast, Nat.toList_repr]
  rfl

theorem chars_member (index : Expr) (table : Table) (field : Nat) :
    (Expr.member index table field).chars =
      callChars ("distmember".toList ++ ['('])
        [table.name.toList, index.chars, natDigits (field + 1)] ')' := by
  change "distmember(".toList ++ table.name.toList ++ ", ".toList ++ index.chars ++ ", ".toList ++
    natDigits (field + 1) ++ [')'] = _
  simp [callChars, joinArguments, List.intercalate]

theorem chars_draw (table : Table) (field column : Nat) :
    (Expr.draw table field column).chars =
      callChars ("dist".toList ++ ['('])
        [table.name.toList, natDigits (field + 1), (Expr.columnName table column).toList] ')' := by
  change "dist(".toList ++ table.name.toList ++ ", ".toList ++ natDigits (field + 1) ++
    ", ".toList ++ (Expr.columnName table column).toList ++ [')'] = _
  simp [callChars, joinArguments, List.intercalate]

theorem chars_reference (name : String) :
    (Expr.reference name).chars = '[' :: name.toList ++ [']'] := rfl

theorem chars_choice (options : List (String × Nat)) :
    (Expr.choice options).chars =
      callChars ("text".toList ++ ['(']) (options.map Expr.optionChars) ')' := rfl

theorem chars_append (name : String) (right : Expr) :
    (Expr.append (.reference name) right).chars =
      '[' :: name.toList ++ ']' :: '+' :: right.chars := by
  change ('[' :: name.toList ++ [']']) ++ '+' :: right.chars = _
  simp

theorem columnName_eq {table : Table} {column : Nat} (hcolumn : column < table.weights.length) :
    Expr.columnName table column = table.weights[column] := by
  rw [Expr.columnName, List.getD_eq_getElem?_getD, List.getElem?_eq_getElem hcolumn,
    Option.getD_some]

theorem argument_kindName (kind : DateKind) : Argument kind.name.toList := by
  cases kind <;> exact .of_isAlphanum (by decide) (by decide)

/-! ### The arguments of each call -/

theorem arguments_option {option : String × Nat} (h : WritableText option.1) :
    ∀ arg ∈ [Expr.quotedChars option.1, natDigits option.2], Argument arg := by
  simp only [List.forall_mem_cons]
  exact ⟨h.argument, argument_natDigits _, by simp⟩

theorem arguments_rowCount {relation : String} (h : WritableText relation) :
    ∀ arg ∈ [Expr.quotedChars relation], Argument arg := by
  simpa using h.argument

theorem arguments_random {start stop : Expr} (hstart : Argument start.chars)
    (hstop : Argument stop.chars) :
    ∀ arg ∈ [start.chars, stop.chars, "uniform".toList], Argument arg := by
  simp only [List.forall_mem_cons]
  exact ⟨hstart, hstop, .of_isAlphanum (by decide) (by decide), by simp⟩

theorem arguments_list {inner : Expr} (hinner : Argument inner.chars) (count : Nat) :
    ∀ arg ∈ [inner.chars, natDigits count], Argument arg := by
  simp only [List.forall_mem_cons]
  exact ⟨hinner, argument_natDigits _, by simp⟩

theorem arguments_date {first last : Expr} (hfirst : Argument first.chars)
    (hlast : Argument last.chars) (kind : DateKind) :
    ∀ arg ∈ [first.chars, last.chars, kind.name.toList], Argument arg := by
  simp only [List.forall_mem_cons]
  exact ⟨hfirst, hlast, argument_kindName kind, by simp⟩

theorem arguments_member {table : Table} (htable : table.Writable) {index : Expr}
    (hindex : Argument index.chars) (field : Nat) :
    ∀ arg ∈ [table.name.toList, index.chars, natDigits (field + 1)], Argument arg := by
  simp only [List.forall_mem_cons]
  exact ⟨htable.name.argument, hindex, argument_natDigits _, by simp⟩

theorem arguments_draw {table : Table} (htable : table.Writable) (field : Nat) {column : Nat}
    (hcolumn : column < table.weights.length) :
    ∀ arg ∈ [table.name.toList, natDigits (field + 1), (table.weights[column]).toList],
      Argument arg := by
  simp only [List.forall_mem_cons]
  exact ⟨htable.name.argument, argument_natDigits _,
    (htable.weights _ (List.getElem_mem hcolumn)).argument, by simp⟩

theorem arguments_choice {options : List (String × Nat)}
    (h : ∀ option ∈ options, WritableText option.1) :
    ∀ arg ∈ options.map Expr.optionChars, Argument arg := by
  intro arg harg
  obtain ⟨option, hoption, rfl⟩ := List.mem_map.1 harg
  rw [optionChars_eq]
  exact .enclosed rfl rfl (arguments_option (h option hoption))

/-! ### Written forms are arguments -/

theorem argument_rowCount {relation : String} (h : WritableText relation) :
    Argument (Expr.rowCount relation).chars := by
  rw [chars_rowCount]
  exact .call (by decide) (by decide) (arguments_rowCount h)

/-- The written form of an expression can stand in an argument list. -/
theorem Writable.argument {registry : Registry} (hregistry : registry.Writable) {e : Expr}
    (h : Writable registry e) : Argument e.chars := by
  induction h with
  | text hvalue => exact hvalue.argument
  | rowCount hrelation => exact argument_rowCount hrelation
  | random _ _ ihstart ihstop =>
      rw [chars_random]
      exact .call (by decide) (by decide) (arguments_random ihstart ihstop)
  | list _ _ ih =>
      rw [chars_list]
      exact .call (by decide) (by decide) (arguments_list ih _)
  | date _ _ kind ihfirst ihlast =>
      rw [chars_date]
      exact .call (by decide) (by decide) (arguments_date ihfirst ihlast kind)
  | divide hrelation hlow _ =>
      obtain ⟨n, rfl⟩ := Int.eq_ofNat_of_zero_le (Int.le_trans (by decide) hlow)
      rw [chars_divide]
      exact (argument_rowCount hrelation).append
        ((argument_natDigits n).cons (by decide) (by decide))
  | member _ htable _ ih =>
      rw [chars_member]
      exact .call (by decide) (by decide) (arguments_member (hregistry _ _ htable).2 ih _)
  | draw htable _ hcolumn =>
      rw [chars_draw, columnName_eq hcolumn]
      exact .call (by decide) (by decide) (arguments_draw (hregistry _ _ htable).2 _ hcolumn)
  | reference hname => exact hname.argument
  | choice _ htexts _ _ =>
      rw [chars_choice]
      exact .call (by decide) (by decide) (arguments_choice htexts)
  | append hname _ ih =>
      have h := hname.argument.append (ih.cons (c := '+') (by decide) (by decide))
      rw [chars_append]
      simpa using h

end QueryVariants.Macro
