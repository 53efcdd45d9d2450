import QueryVariants.Macro.Parser
import QueryVariants.Macro.Printer
import QueryVariants.Proofs.Distribution.Registries
import QueryVariants.Proofs.Macro.Splitting
import QueryVariants.Proofs.Text.Numeral

/-!
# Expressions whose written form can be read

The written form of an expression escapes nothing, so not every expression can be read back: a text must
not hold a quote and must close what it opens, and a name must not hold a character that ends it. The
expressions below are those whose parts keep to this. Their written forms are arguments, whatever they
stand in.
-/

namespace QueryVariants

open Text Macro

/-! ### Names and texts -/

namespace Macro

/-- A name that can stand bare in an argument list. -/
structure WritableName (name : String) : Prop where
  trimmed : Trimmed name.toList
  plain : Plain name.toList

/-- A text that can stand between quotes. -/
structure WritableText (value : String) : Prop where
  quote : '"' ∉ value.toList
  nesting : EvenlyNested value.toList

/-- A name that can stand between brackets. -/
structure WritableReference (name : String) : Prop where
  bracket : ']' ∉ name.toList
  plain : Plain name.toList

theorem WritableName.argument {name : String} (h : WritableName name) : Argument name.toList :=
  .of_plain h.trimmed h.plain

theorem WritableText.argument {value : String} (h : WritableText value) :
    Argument (Expr.quotedChars value) :=
  .quoted h.quote h.nesting

theorem WritableReference.argument {name : String} (h : WritableReference name) :
    Argument ('[' :: name.toList ++ [']']) := by
  refine .of_plain (.enclosed _ (by decide) (by decide)) ?_
  intro c hc
  simp only [List.cons_append, List.mem_cons, List.mem_append, List.not_mem_nil, or_false] at hc
  rcases hc with rfl | hc | rfl
  · decide
  · exact h.plain c hc
  · decide

theorem argument_natDigits (n : Nat) : Argument (natDigits n) := by
  refine .of_isAlphanum natDigits_ne_nil (List.all_eq_true.2 ?_)
  intro c hc
  rw [Char.isAlphanum, isDigit_of_mem_natDigits hc, Bool.or_true]

end Macro

/-! ### Tables and expressions -/

/-- A table whose names can be written and read. -/
structure Table.Writable (table : Table) : Prop where
  name : WritableName table.name
  /-- The table is not hidden behind the alias. -/
  unaliased : table.name ≠ "stores"
  weights : ∀ weight ∈ table.weights, WritableName weight
  distinct : table.weights.Nodup
  /-- The position of a value column is a machine word. -/
  fields : table.fields.length < UInt64.size

/-- Every table is kept under its own name and can be written. -/
def Registry.Writable (registry : Registry) : Prop :=
  ∀ name table, registry.tables.find? name = some table → table.name = name ∧ table.Writable

/-- A registry of writable tables is writable. -/
theorem Registry.writable_ofTables {tables : List Table} (h : ∀ table ∈ tables, table.Writable) :
    (Registry.ofTables tables).Writable := by
  apply Registry.forall_find?_ofTables
  intro table htable
  exact ⟨rfl, h table htable⟩

namespace Macro

/-- An expression whose written form can be read with the tables of a registry. -/
inductive Writable (registry : Registry) : Expr → Prop
  | text {value : String} (hvalue : WritableText value) : Writable registry (.text value)
  | rowCount {relation : String} (hrelation : WritableText relation) :
    Writable registry (.rowCount relation)
  | random {start stop : Expr} (hstart : Writable registry start) (hstop : Writable registry stop) :
    Writable registry (.random start stop)
  | list {inner : Expr} {count : Nat} (hinner : Writable registry inner)
    (hcount : count ≤ maxListCount) : Writable registry (.list inner count)
  | date {first last : Expr} (hfirst : Writable registry first) (hlast : Writable registry last)
    (kind : DateKind) : Writable registry (.date first last kind)
  | divide {relation : String} {divisor : Int} (hrelation : WritableText relation)
    (hlow : 2 ≤ divisor) (hhigh : divisor ≤ maxSigned) :
    Writable registry (.divide (.rowCount relation) divisor)
  | member {index : Expr} {name : String} {table : Table} {field : Nat}
    (hindex : Writable registry index) (htable : registry.tables.find? name = some table)
    (hfield : field < table.fields.length) : Writable registry (.member index table field)
  | draw {name : String} {table : Table} {field column : Nat}
    (htable : registry.tables.find? name = some table) (hfield : field < table.fields.length)
    (hcolumn : column < table.weights.length) : Writable registry (.draw table field column)
  | reference {name : String} (hname : WritableReference name) : Writable registry (.reference name)
  | choice {options : List (String × Nat)} (hmany : 2 ≤ options.length)
    (htexts : ∀ option ∈ options, WritableText option.1)
    (hlow : 1 ≤ Weights.total (options.map Prod.snd))
    (hhigh : Weights.total (options.map Prod.snd) < UInt64.size) :
    Writable registry (.choice options)
  | append {name : String} {right : Expr} (hname : WritableReference name)
    (hright : Writable registry right) : Writable registry (.append (.reference name) right)

end Macro

end QueryVariants
