import QueryVariants.Proofs.Macro.Writable

/-!
# What the reader makes of each form

One statement for each form of an expression: if the text has the form and the arguments that belong to
it, and if the operands are read, then the whole is read. The statements say nothing of the printer.
-/

namespace QueryVariants.Macro

open Text

/-! ### Parts of a call -/

section

variable {registry : Registry} {table : Table} {field column : Nat}

theorem unquote_quotedChars (value : String) : unquote (Expr.quotedChars value) = value.toList := by
  have hsuffix : stripSuffix? ['"'] (value.toList ++ ['"']) = some value.toList :=
    stripSuffix?_eq_some_iff.2 rfl
  rw [Expr.quotedChars, List.cons_append, unquote, hsuffix, Option.getD_some]

theorem readNumber_natDigits (place : String) {n : Nat} (h : n < UInt64.size) :
    readNumber place (natDigits n) = .ok n := by
  rw [readNumber, readUnsigned?_natDigits h]

theorem readField_natDigits (hfield : field < table.fields.length)
    (hfields : table.fields.length < UInt64.size) :
    readField table (natDigits (field + 1)) = .ok field := by
  rw [readField, readNumber_natDigits _ (by omega)]
  have hrange : 1 ≤ field + 1 ∧ field + 1 ≤ table.fields.length := by omega
  simp only [bind, Except.bind, if_pos hrange, Nat.add_sub_cancel]

/-- A table of a writable registry is found under the name that is written. -/
theorem get_of_writable (hregistry : registry.Writable) {name : String}
    (htable : registry.tables.find? name = some table) : registry.get table.name = .ok table := by
  obtain ⟨hname, hwritable⟩ := hregistry name table htable
  rw [Registry.get, Registry.find?, Distribution.resolveAlias, if_neg hwritable.unaliased, hname,
    htable]

/-- A weight column is found under its name, since the names differ. -/
theorem weightIndex_getElem (hdistinct : table.weights.Nodup)
    (hcolumn : column < table.weights.length) :
    table.weightIndex table.weights[column] = .ok column := by
  have hfind : table.weights.findIdx? (· = table.weights[column]) = some column := by
    rw [List.findIdx?_eq_some_iff_getElem]
    refine ⟨hcolumn, by simp, ?_⟩
    intro earlier hearlier hsame
    have hindex := (List.getElem_inj hdistinct).1 (of_decide_eq_true hsame)
    omega
  rw [Table.weightIndex, hfind]

theorem splitDivisor?_of_call (call : List Char) (n : Nat) :
    splitDivisor? (call ++ '/' :: natDigits n) = some (call, natDigits n) := by
  -- Read from its end, the text has digits up to the slash.
  have hdigits : ∀ c ∈ (natDigits n).reverse, c.isDigit = true :=
    fun c hc => isDigit_of_mem_natDigits (List.mem_reverse.1 hc)
  have hreverse : (call ++ '/' :: natDigits n).reverse =
      (natDigits n).reverse ++ '/' :: call.reverse := by simp
  have htake : ((natDigits n).reverse ++ '/' :: call.reverse).takeWhile Char.isDigit =
      (natDigits n).reverse := by
    rw [List.takeWhile_append_of_pos hdigits, List.takeWhile_cons_of_neg (by decide),
      List.append_nil]
  have hdrop : ((natDigits n).reverse ++ '/' :: call.reverse).dropWhile Char.isDigit =
      '/' :: call.reverse := by
    rw [List.dropWhile_append_of_pos hdigits, List.dropWhile_cons_of_neg (by decide)]
  simp only [splitDivisor?, hreverse, htake, hdrop]
  split
  · rename_i hnil
    exact absurd (List.reverse_eq_nil_iff.1 hnil) natDigits_ne_nil
  · rename_i heq _
    obtain ⟨-, rfl⟩ := List.cons.inj heq
    rw [List.reverse_reverse, List.reverse_reverse]
  · rename_i hne
    exact absurd rfl (hne _)

theorem splitDivisor?_of_closed (s : List Char) : splitDivisor? (s ++ [')']) = none := by
  simp only [splitDivisor?, List.reverse_append, List.reverse_singleton, List.singleton_append]
  rfl

theorem bracket?_eq {name : List Char} (rest : List Char) (hname : ']' ∉ name) :
    bracket? ('[' :: name ++ ']' :: rest) = some (name, rest) := by
  rw [List.cons_append, bracket?, dropWhile_ne_append_cons rest hname]
  simp only [takeWhile_ne_append_cons rest hname]

end

/-! ### Forms -/

section

variable {registry : Registry} {source : String} {s : List Char}

theorem readExpr_quotedChars (value : String) :
    readExpr registry source (Expr.quotedChars value) = .ok (.text value) := by
  have hform : Form.of (Expr.quotedChars value) = .quoted := by
    have htext : "text(".toList.isPrefixOf (Expr.quotedChars value) = false := rfl
    have hquoted : isQuoted (Expr.quotedChars value) = true := by
      rw [Expr.quotedChars, List.cons_append, isQuoted, List.getLast?_append]
      rfl
    rw [Form.of, htext, hquoted]
    rfl
  rw [readExpr, hform]
  simp [Expr.quotedChars]

theorem readExpr_of_random {first second kind : List Char} {start stop : Expr}
    (hform : Form.of s = .random)
    (hargs : arguments? "random(".toList [')'] s = some [first, second, kind])
    (hkind : asciiLower kind = "uniform".toList)
    (hstart : readExpr registry source first = .ok start)
    (hstop : readExpr registry source second = .ok stop) :
    readExpr registry source s = .ok (.random start stop) := by
  rw [readExpr, hform]
  simp only
  split
  · rename_i a b k heq
    rw [hargs] at heq
    obtain ⟨rfl, rfl, rfl⟩ : first = a ∧ second = b ∧ kind = k := by simpa using heq
    rw [if_neg (fun h => h hkind), hstart, hstop]
    rfl
  · rename_i hne
    exact absurd hargs (hne _ _ _)

theorem readExpr_of_list {operand digits : List Char} {inner : Expr} {count : Nat}
    (hform : Form.of s = .list)
    (hargs : arguments? "ulist(".toList [')'] s = some [operand, digits])
    (hdigits : readUnsigned? digits = some count) (hcount : count ≤ maxListCount)
    (hinner : readExpr registry source operand = .ok inner) :
    readExpr registry source s = .ok (.list inner count) := by
  rw [readExpr, hform]
  simp only
  split
  · rename_i a b heq
    rw [hargs] at heq
    obtain ⟨rfl, rfl⟩ : operand = a ∧ digits = b := by simpa using heq
    rw [readNumber, hdigits, hinner]
    simp only [bind, Except.bind, if_neg (Nat.not_lt.2 hcount), pure, Except.pure]
  · rename_i hne
    exact absurd hargs (hne _ _)

theorem readExpr_of_date {low high word : List Char} {first last : Expr} {kind : DateKind}
    (hform : Form.of s = .date)
    (hargs : arguments? "date(".toList [')'] s = some [low, high, word])
    (hkind : DateKind.ofName? word = some kind)
    (hfirst : readExpr registry source low = .ok first)
    (hlast : readExpr registry source high = .ok last) :
    readExpr registry source s = .ok (.date first last kind) := by
  rw [readExpr, hform]
  simp only
  split
  · rename_i a b k heq
    rw [hargs] at heq
    obtain ⟨rfl, rfl, rfl⟩ : low = a ∧ high = b ∧ word = k := by simpa using heq
    rw [hkind]
    simp only [hfirst, hlast, bind, Except.bind, pure, Except.pure]
  · rename_i hne
    exact absurd hargs (hne _ _ _)

theorem readExpr_of_member {name operand digits : List Char} {table : Table} {index : Expr}
    {field : Nat} (hform : Form.of s = .member)
    (hargs : arguments? "distmember(".toList [')'] s = some [name, operand, digits])
    (htable : registry.get (String.ofList name) = .ok table)
    (hfield : readField table digits = .ok field)
    (hindex : readExpr registry source operand = .ok index) :
    readExpr registry source s = .ok (.member index table field) := by
  rw [readExpr, hform]
  simp only
  split
  · rename_i a b k heq
    rw [hargs] at heq
    obtain ⟨rfl, rfl, rfl⟩ : name = a ∧ operand = b ∧ digits = k := by simpa using heq
    simp only [htable, hfield, hindex, bind, Except.bind, pure, Except.pure]
  · rename_i hne
    exact absurd hargs (hne _ _ _)


theorem readExpr_of_rowCount (hform : Form.of s = .rowCount) :
    readExpr registry source s = readRowCount source s := by
  rw [readExpr, hform]

theorem readExpr_of_draw (hform : Form.of s = .draw) :
    readExpr registry source s = readDraw registry source s := by
  rw [readExpr, hform]

theorem readExpr_of_text (hform : Form.of s = .text) :
    readExpr registry source s = readText source s := by
  rw [readExpr, hform]

/-- An integer stands for itself. -/
theorem readExpr_of_bare (hform : Form.of s = .bare) (hinteger : (readSigned? s).isSome = true) :
    readExpr registry source s = .ok (.text (String.ofList s)) := by
  rw [readExpr, hform]
  exact if_pos hinteger

theorem form_of_bracket {name : List Char} (rest : List Char) (hname : ']' ∉ name) :
    Form.of ('[' :: name ++ ']' :: rest) = .bracket := by
  have hform : Form.of ('[' :: name ++ ']' :: rest) =
      if (bracket? ('[' :: name ++ ']' :: rest)).isSome then .bracket else .bare := rfl
  rw [hform, bracket?_eq rest hname]
  rfl

theorem readExpr_reference {name : List Char} (hname : ']' ∉ name) :
    readExpr registry source ('[' :: name ++ [']']) = .ok (.reference (String.ofList name)) := by
  rw [readExpr, form_of_bracket [] hname]
  simp only
  split
  · rename_i found heq
    rw [bracket?_eq [] hname] at heq
    obtain rfl : name = found := by simpa using heq
    rfl
  · rename_i found tail heq
    rw [bracket?_eq [] hname] at heq
    simp at heq
  · rename_i hreference _
    exact absurd (bracket?_eq [] hname) (hreference _)

/-- After a name in brackets and a plus sign the rest is read by itself. -/
theorem readExpr_append {name : List Char} (rest : List Char) (hname : ']' ∉ name) :
    readExpr registry source ('[' :: name ++ ']' :: '+' :: rest) =
      (readExpr registry source (trim rest)).map (.append (.reference (String.ofList name))) := by
  rw [readExpr, form_of_bracket _ hname]
  simp only
  split
  · rename_i found heq
    rw [bracket?_eq _ hname] at heq
    simp at heq
  · rename_i found tail heq
    rw [bracket?_eq _ hname] at heq
    obtain ⟨rfl, rfl⟩ : name = found ∧ rest = tail := by simpa using heq
    rfl
  · rename_i _ happend
    exact absurd (bracket?_eq _ hname) (happend _ _)

end

end QueryVariants.Macro
