import Mathlib.Data.List.Forall2
import QueryVariants.Proofs.OrderedMap
import QueryVariants.Proofs.Result
import QueryVariants.Proofs.Text.Lines
import QueryVariants.Template.Expand

/-!
# What a template is read from

A template depends on its text only through the lines, and on the lines only through the body and the
defines among them: the numbers of the lines are for error messages. So the template is put together here
from its defines, read one by one.
-/

namespace QueryVariants.Template

open Macro Text

/-- The defines among the lines, without their keyword. -/
def definesAmong (lines : List (List Char)) : List (List Char) :=
  lines.filterMap fun line =>
    match Line.classify line with
    | .define rest => some rest
    | _ => none

/-- The lines of the body, each ended by a line feed. -/
def bodyAmong (lines : List (List Char)) : List Char :=
  lines.flatMap fun line =>
    match Line.classify line with
    | .body text => text ++ ['\n']
    | _ => []

/-- The text of a define gives a name an expression. -/
def Defines (registry : Registry) (rest : List Char) (entry : String × Expr) : Prop :=
  ∃ value, splitDefine rest = .ok (entry.1, value) ∧ Expr.parse value registry = .ok entry.2

section

variable {id number : Nat} {registry : Registry} {rest line : List Char} {before after : List (List Char)}
  {entry : String × Expr} {defines map : OrderedMap Expr}

theorem definesAmong_append (before after : List (List Char)) :
    definesAmong (before ++ after) = definesAmong before ++ definesAmong after :=
  List.filterMap_append

theorem definesAmong_cons_of_define (h : Line.classify line = .define rest) :
    definesAmong (line :: after) = rest :: definesAmong after := by
  rw [definesAmong, List.filterMap_cons, h]
  rfl

theorem bodyAmong_insert_define (h : Line.classify line = .define rest) :
    bodyAmong (before ++ line :: after) = bodyAmong (before ++ after) := by
  unfold bodyAmong
  rw [List.flatMap_append, List.flatMap_append, List.flatMap_cons, h]
  rfl

theorem Defines.unique {other : String × Expr} (h : Defines registry rest entry)
    (hother : Defines registry rest other) : entry = other := by
  obtain ⟨value, hsplit, hparse⟩ := h
  obtain ⟨value', hsplit', hparse'⟩ := hother
  obtain ⟨hname, rfl⟩ := Prod.mk.inj (Except.ok.inj (hsplit.symm.trans hsplit'))
  exact Prod.ext hname (Except.ok.inj (hparse.symm.trans hparse'))

theorem readDefine_eq_ok_iff :
    readDefine id registry number rest = .ok entry ↔ Defines registry rest entry := by
  unfold readDefine Defines
  obtain ⟨name, e⟩ := entry
  rcases hsplit : splitDefine rest with problem | ⟨other, value⟩
  · simp
  · simp only [Result.map_eq_ok_iff, Except.ok.injEq, Prod.mk.injEq]
    constructor
    · rintro ⟨e', hparse, rfl, rfl⟩
      exact ⟨value, ⟨rfl, rfl⟩, hparse⟩
    · rintro ⟨_, ⟨rfl, rfl⟩, hparse⟩
      exact ⟨e, hparse, rfl, rfl⟩

theorem readDefines_eq_ok_iff {numbered : List (Nat × List Char)} :
    readDefines id registry map (numbered.map fun (number, line) => (number, .classify line)) =
        .ok defines ↔
      ∃ entries, List.Forall₂ (Defines registry) (definesAmong (numbered.map Prod.snd)) entries ∧
        defines = map.insertMany entries := by
  induction numbered generalizing map with
  | nil =>
      constructor
      · intro h
        obtain rfl := Except.ok.inj h
        exact ⟨[], .nil, rfl⟩
      · rintro ⟨entries, hentries, rfl⟩
        cases hentries
        rfl
  | cons first numbered ih =>
      obtain ⟨number, line⟩ := first
      rw [List.map_cons, List.map_cons]
      cases hline : Line.classify line with
      | define rest =>
          rw [definesAmong_cons_of_define hline]
          simp only [hline]
          rw [readDefines, Result.bind_eq_ok_iff]
          constructor
          · rintro ⟨⟨name, e⟩, hread, hrest⟩
            obtain ⟨entries, hentries, rfl⟩ := ih.1 hrest
            exact ⟨(name, e) :: entries, .cons (readDefine_eq_ok_iff.1 hread) hentries, rfl⟩
          · rintro ⟨entries, hentries, rfl⟩
            cases hentries with
            | @cons _ entry _ entries hfirst hentries =>
                exact ⟨entry, readDefine_eq_ok_iff.2 hfirst, ih.2 ⟨entries, hentries, rfl⟩⟩
      | skipped | body =>
          have hskip : definesAmong (line :: numbered.map Prod.snd) =
              definesAmong (numbered.map Prod.snd) := by
            rw [definesAmong, List.filterMap_cons, hline]
            rfl
          simp only [hline]
          rw [hskip, ← ih, readDefines]
          simp

theorem bodyText_eq (numbered : List (Nat × List Char)) :
    bodyText (numbered.map fun (number, line) => (number, .classify line)) =
      bodyAmong (numbered.map Prod.snd) := by
  unfold bodyText bodyAmong
  rw [List.flatMap_map, List.flatMap_map]
  congr 1
  funext ⟨number, line⟩
  dsimp only
  cases Line.classify line <;> rfl

end

/-- The helpers of a row limit are made from an integer that its expression comes to by itself. -/
theorem exists_limit_of_helpers {defines : OrderedMap Expr} {limits : List (String × Expr)} {e : Expr}
    (h : helpers defines = .ok limits) (hfind : defines.find? limitName = some e) :
    ∃ value limit, Evaluation.evaluateConstant e = .ok value ∧
      Evaluation.readInteger limitName value = .ok limit ∧ limits = limitHelpers limit := by
  unfold helpers at h
  rw [hfind] at h
  obtain ⟨value, hvalue, h⟩ := Result.bind_eq_ok_iff.1 h
  obtain ⟨limit, hlimit, h⟩ := Result.bind_eq_ok_iff.1 h
  exact ⟨value, limit, hvalue, hlimit, (Except.ok.inj h).symm⟩

theorem helpers_eq_ok {defines : OrderedMap Expr} {limits : List (String × Expr)}
    (h : helpers defines = .ok limits) :
    (defines.find? limitName = none ∧ limits = []) ∨
      (∃ value, defines.find? limitName = some value) ∧ ∃ limit, limits = limitHelpers limit := by
  rcases hfind : defines.find? limitName with _ | e
  · rw [helpers, hfind] at h
    exact .inl ⟨rfl, (Except.ok.inj h).symm⟩
  · obtain ⟨_, limit, -, -, hlimits⟩ := exists_limit_of_helpers h hfind
    exact .inr ⟨⟨e, rfl⟩, limit, hlimits⟩

/-- The template that consists of a body and of defines, each read by itself. -/
def assemble (id : Nat) (body : List Char) (defines : OrderedMap Expr) (limits : List (String × Expr)) :
    Template :=
  ⟨id, .ofList (dropTerminator body), defines,
    .ofList (limits ++ defines.entries.flatMap fun (name, e) => withItems name e)⟩

theorem parse_eq_ok_iff {id : Nat} {text : String} {registry : Registry} {template : Template} :
    parse id text registry = .ok template ↔
      ∃ entries limits,
        List.Forall₂ (Defines registry) (definesAmong (lines text.toList)) entries ∧
        helpers ((∅ : OrderedMap Expr).insertMany entries) = .ok limits ∧
        template = assemble id (bodyAmong (lines text.toList)) ((∅ : OrderedMap Expr).insertMany entries)
          limits := by
  have hbody : bodyText (classifiedLines text.toList) = bodyAmong (lines text.toList) := by
    rw [classifiedLines, bodyText_eq, map_snd_numberedLines]
  have hdefines : ∀ defines, readDefines id registry ∅ (classifiedLines text.toList) = .ok defines ↔
      ∃ entries, List.Forall₂ (Defines registry) (definesAmong (lines text.toList)) entries ∧
        defines = (∅ : OrderedMap Expr).insertMany entries := by
    intro defines
    rw [classifiedLines, readDefines_eq_ok_iff, map_snd_numberedLines]
  constructor
  · intro h
    obtain ⟨defines, hread, h⟩ := Result.bind_eq_ok_iff.1 h
    obtain ⟨substitutions, hsubstitutions, h⟩ := Result.bind_eq_ok_iff.1 h
    obtain ⟨limits, hlimits, hexpand⟩ := Result.bind_eq_ok_iff.1 hsubstitutions
    obtain ⟨entries, hentries, rfl⟩ := (hdefines defines).1 hread
    obtain rfl := Except.ok.inj h
    obtain rfl := Except.ok.inj hexpand
    exact ⟨entries, limits, hentries, hlimits, by rw [assemble, ← hbody]⟩
  · rintro ⟨entries, limits, hentries, hlimits, rfl⟩
    refine Result.bind_eq_ok_iff.2 ⟨_, (hdefines _).2 ⟨entries, hentries, rfl⟩, ?_⟩
    refine Result.bind_eq_ok_iff.2 ⟨_, Result.bind_eq_ok_iff.2 ⟨limits, hlimits, rfl⟩, ?_⟩
    rw [hbody]
    rfl

theorem exists_defines_of_mem {registry : Registry} {lines : List (List Char)}
    {entries : List (String × Expr)} {entry : String × Expr}
    (h : List.Forall₂ (Defines registry) lines entries) (hentry : entry ∈ entries) :
    ∃ rest, Defines registry rest entry := by
  induction h with
  | nil => cases hentry
  | cons hfirst _ ih =>
      rcases List.mem_cons.1 hentry with rfl | hentry
      · exact ⟨_, hfirst⟩
      · exact ih hentry

/-- The expression of a define was read. -/
theorem exists_parse_of_find? {id : Nat} {text name : String} {registry : Registry} {template : Template}
    {e : Expr} (h : parse id text registry = .ok template) (hfind : template.defines.find? name = some e) :
    ∃ value, Expr.parse value registry = .ok e := by
  obtain ⟨entries, limits, hentries, -, rfl⟩ := parse_eq_ok_iff.1 h
  rcases OrderedMap.mem_or_find?_of_find?_insertMany hfind with hmem | ⟨-, hempty⟩
  · obtain ⟨rest, value, -, hvalue⟩ := exists_defines_of_mem hentries hmem
    exact ⟨value, hvalue⟩
  · cases hempty

/-- The substitutions of a template that was read are the helpers of the row limit and its defines with their
items. -/
theorem exists_limits_of_parse {id : Nat} {text : String} {registry : Registry} {template : Template}
    (h : parse id text registry = .ok template) :
    ∃ limits, helpers template.defines = .ok limits ∧
      template.substitutions = .ofList (limits ++ template.defines.entries.flatMap fun (name, e) => withItems name e) := by
  obtain ⟨_, limits, -, hlimits, rfl⟩ := parse_eq_ok_iff.1 h
  exact ⟨limits, hlimits, rfl⟩

end QueryVariants.Template
