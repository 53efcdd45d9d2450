import QueryVariants.Proofs.Macro.Reading
import QueryVariants.Proofs.Macro.WrittenForm

/-!
# Reading what was written

The printer and the reader of macro expressions know nothing of each other. That they agree is shown form
by form: the written form of each expression begins with the word of its form, its operands are the
arguments that the reader finds, and each operand is read back by induction.
-/

namespace QueryVariants

theorem Weights.le_total {weights : List Nat} {weight : Nat} (h : weight ∈ weights) :
    weight ≤ Weights.total weights := by
  induction weights with
  | nil => simp at h
  | cons first rest ih =>
      rw [Weights.total]
      rcases List.mem_cons.1 h with rfl | h
      · exact Nat.le_add_right _ _
      · exact Nat.le_add_left_of_le (ih h)

namespace Macro

open Text

section

variable {registry : Registry} {source : String}

theorem rowCount_arguments {relation : String} (h : WritableText relation) :
    (arguments? "rowcount(".toList [')'] (Expr.rowCount relation).chars).bind List.getLast? =
      some (Expr.quotedChars relation) := by
  have hcall : arguments? "rowcount(".toList [')'] (Expr.rowCount relation).chars =
      some [Expr.quotedChars relation] := by
    rw [chars_rowCount]
    exact arguments?_callChars _ _ (arguments_rowCount h)
  rw [hcall]
  rfl

theorem readRowCount_chars {relation : String} (h : WritableText relation) :
    readRowCount source (Expr.rowCount relation).chars = .ok (.rowCount relation) := by
  have hsplit : splitDivisor? (Expr.rowCount relation).chars = none := by
    rw [chars_rowCount]
    exact splitDivisor?_of_closed _
  simp only [readRowCount, hsplit, bind, Except.bind, rowCount_arguments h, unquote_quotedChars,
    String.ofList_toList]
  rfl

theorem readRowCount_divide {relation : String} {divisor : Nat} (h : WritableText relation)
    (hlow : 2 ≤ divisor) (hhigh : divisor ≤ maxSigned) :
    readRowCount source (Expr.divide (.rowCount relation) divisor).chars =
      .ok (.divide (.rowCount relation) divisor) := by
  have hdivisor : (1 : Int) < divisor := by omega
  rw [chars_divide]
  simp only [readRowCount, splitDivisor?_of_call, readSigned?_natDigits hhigh, bind, Except.bind,
    rowCount_arguments h, unquote_quotedChars, String.ofList_toList, if_pos hdivisor]

theorem readDraw_chars (hregistry : registry.Writable) {name : String} {table : Table}
    {field column : Nat} (htable : registry.tables.find? name = some table)
    (hfield : field < table.fields.length) (hcolumn : column < table.weights.length) :
    readDraw registry source (Expr.draw table field column).chars =
      .ok (.draw table field column) := by
  have hwritable := (hregistry _ _ htable).2
  -- The call that stands for the categories has parentheses, and the name of a table has none.
  have hname : table.name.toList ≠ categoriesCall := by
    intro h
    have hparen : '(' ∈ table.name.toList := h ▸ by decide
    exact hwritable.name.plain _ hparen (by decide)
  have hcall : arguments? "dist(".toList [')'] (Expr.draw table field column).chars = some
      [table.name.toList, natDigits (field + 1), (table.weights[column]).toList] := by
    rw [chars_draw, columnName_eq hcolumn]
    exact arguments?_callChars _ _ (arguments_draw hwritable field hcolumn)
  simp only [readDraw, hcall, if_neg hname, String.ofList_toList,
    get_of_writable hregistry htable, readField_natDigits hfield hwritable.fields,
    weightIndex_getElem hwritable.distinct hcolumn, bind, Except.bind, pure, Except.pure]

theorem readOption_optionChars (source : String) {option : String × Nat} (htext : WritableText option.1)
    (hweight : option.2 < UInt64.size) :
    readOption source (Expr.optionChars option) = .ok option := by
  rw [readOption, optionChars_eq, arguments?_callChars _ _ (arguments_option htext)]
  simp only [readNumber_natDigits _ hweight, unquote_quotedChars, String.ofList_toList]
  rfl

theorem mapM_readOption {options : List (String × Nat)}
    (h : ∀ option ∈ options, WritableText option.1 ∧ option.2 < UInt64.size) :
    (options.map Expr.optionChars).mapM (readOption source) = .ok options := by
  induction options with
  | nil => rfl
  | cons option options ih =>
      obtain ⟨⟨htext, hweight⟩, hrest⟩ := List.forall_mem_cons.1 h
      rw [List.map_cons, List.mapM_cons, readOption_optionChars source htext hweight, ih hrest]
      rfl

theorem readText_chars {options : List (String × Nat)} (hmany : 2 ≤ options.length)
    (htexts : ∀ option ∈ options, WritableText option.1)
    (hlow : 1 ≤ Weights.total (options.map Prod.snd))
    (hhigh : Weights.total (options.map Prod.snd) < UInt64.size) :
    readText source (Expr.choice options).chars = .ok (.choice options) := by
  have hcall : arguments? "text(".toList [')'] (Expr.choice options).chars =
      some (options.map Expr.optionChars) := by
    rw [chars_choice]
    exact arguments?_callChars _ _ (arguments_choice htexts)
  have hoptions : (options.map Expr.optionChars).mapM (readOption source) = .ok options := by
    refine mapM_readOption fun option hoption => ⟨htexts option hoption, ?_⟩
    exact Nat.lt_of_le_of_lt (Weights.le_total (List.mem_map_of_mem hoption)) hhigh
  have htotal : 0 < Weights.total (options.map Prod.snd) ∧
      Weights.total (options.map Prod.snd) < UInt64.size := ⟨hlow, hhigh⟩
  rw [readText, hcall]
  split
  · rename_i hnone
    cases hnone
  · rename_i hempty
    have hlength := congrArg List.length (Option.some.inj hempty)
    simp only [List.length_map, List.length_nil] at hlength
    omega
  · rename_i value hsingle
    have hlength := congrArg List.length (Option.some.inj hsingle)
    simp only [List.length_map, List.length_singleton] at hlength
    omega
  · rename_i arguments _ _ heq
    obtain rfl := Option.some.inj heq
    simp only [hoptions, bind, Except.bind, if_pos htotal]

/-- The written form of an expression is read as that expression. -/
theorem Writable.readExpr_chars (hregistry : registry.Writable) {e : Expr}
    (h : Writable registry e) : readExpr registry source e.chars = .ok e := by
  induction h with
  | text hvalue => exact readExpr_quotedChars _
  | rowCount hrelation =>
      rw [readExpr_of_rowCount rfl]
      exact readRowCount_chars hrelation
  | random hstart hstop ihstart ihstop =>
      have hargs := arguments_random (hstart.argument hregistry) (hstop.argument hregistry)
      rw [chars_random]
      exact readExpr_of_random rfl (arguments?_callChars _ _ hargs) rfl ihstart ihstop
  | @list inner count hinner hcount ih =>
      have hargs := arguments_list (hinner.argument hregistry) count
      have hword : count < UInt64.size := Nat.lt_of_le_of_lt hcount (by decide)
      rw [chars_list]
      exact readExpr_of_list rfl (arguments?_callChars _ _ hargs) (readUnsigned?_natDigits hword)
        hcount ih
  | date hfirst hlast kind ihfirst ihlast =>
      have hargs := arguments_date (hfirst.argument hregistry) (hlast.argument hregistry) kind
      have hkind : DateKind.ofName? kind.name.toList = some kind := by cases kind <;> rfl
      rw [chars_date]
      exact readExpr_of_date rfl (arguments?_callChars _ _ hargs) hkind ihfirst ihlast
  | divide hrelation hlow hhigh =>
      obtain ⟨n, rfl⟩ := Int.eq_ofNat_of_zero_le (Int.le_trans (by decide) hlow)
      rw [readExpr_of_rowCount rfl]
      exact readRowCount_divide hrelation (by omega) (by omega)
  | @member index name table field hindex htable hfield ih =>
      have hwritable := (hregistry _ _ htable).2
      have hargs := arguments_member hwritable (hindex.argument hregistry) field
      have hget : registry.get (String.ofList table.name.toList) = .ok table := by
        rw [String.ofList_toList]
        exact get_of_writable hregistry htable
      rw [chars_member]
      exact readExpr_of_member rfl (arguments?_callChars _ _ hargs) hget
        (readField_natDigits hfield hwritable.fields) ih
  | draw htable hfield hcolumn =>
      rw [readExpr_of_draw rfl]
      exact readDraw_chars hregistry htable hfield hcolumn
  | reference hname =>
      rw [chars_reference, readExpr_reference hname.bracket, String.ofList_toList]
  | choice hmany htexts hlow hhigh =>
      rw [readExpr_of_text rfl]
      exact readText_chars hmany htexts hlow hhigh
  | append hname hright ih =>
      rw [chars_append, readExpr_append _ hname.bracket, (hright.argument hregistry).trimmed.trim_eq, ih,
        String.ofList_toList]
      rfl

/-- **Reading takes back what writing did.** With a registry of writable tables, the written form of a
writable expression of any depth is read, and as that expression and no other. -/
theorem parse_render (hregistry : registry.Writable) {e : Expr} (h : Writable registry e) :
    Expr.parse e.render registry = .ok e := by
  rw [Expr.parse, Expr.render, String.toList_ofList, (h.argument hregistry).trimmed.trim_eq]
  exact h.readExpr_chars hregistry

end

def genderTable : Table :=
  ⟨"gender", ["gender"], ["1"], [⟨["M"], [1]⟩, ⟨["F"], [1]⟩]⟩

/-- Forms inside each other, with commas and parentheses inside quotes. -/
def nestedExpr : Expr :=
  .list (.random (.member (.draw genderTable 0 0) genderTable 0)
    (.append (.reference "YEAR")
      (.date (.choice [("a, (b)", 2), (")(", 1)]) (.divide (.rowCount "store_sales") 5)
        .returns))) 4

theorem parse_render_nestedExpr :
    Expr.parse nestedExpr.render (.ofTables [genderTable]) = .ok nestedExpr := by
  have htable : genderTable.Writable :=
    { name := ⟨.of_isAlphanum (by decide) (by decide), by decide⟩
      unaliased := by decide
      weights := by
        simp only [genderTable, List.forall_mem_cons]
        exact ⟨⟨.of_isAlphanum (by decide) (by decide), by decide⟩, by simp⟩
      distinct := by decide
      fields := by decide }
  have hfind : (Registry.ofTables [genderTable]).tables.find? "gender" = some genderTable := rfl
  refine parse_render (Registry.writable_ofTables (by simpa using htable)) ?_
  refine .list (.random (.member (.draw hfind (by decide) (by decide)) hfind (by decide))
    (.append ⟨by decide, by decide⟩ (.date (.choice (by decide) ?_ (by decide) (by decide))
      (.divide ⟨by decide, by decide⟩ (by decide) (by decide)) .returns))) (by decide)
  simp only [List.forall_mem_cons]
  exact ⟨⟨by decide, by decide⟩, ⟨by decide, by decide⟩, by simp⟩

end Macro

end QueryVariants
