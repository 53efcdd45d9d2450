import QueryVariants.Proofs.Evaluation.Agreement
import QueryVariants.Proofs.Macro.Reading
import QueryVariants.Proofs.OrderedMap
import QueryVariants.Proofs.Template.OnePass
import QueryVariants.Proofs.Template.Parsing

/-!
# A define that is not used

One define more gives a template more names to visit and a larger map to resolve them in. If the new names
are used nowhere, then taking them out of the map gives the map of the old template, in the same order.
Both templates then visit the same names with the same placeholders, in scopes that agree on them, so the
two expansions keep in step: they make the same requests in the same states.
-/

namespace QueryVariants.Template

open Evaluation Macro Text

/-- The names that a define brings into a template: its own, those of its items, and for the row limit those
of the helpers. -/
def namesOf (name : String) (e : Expr) : List String :=
  (if name = limitName then ["_LIMITA", "_LIMITB", "_LIMITC"] else []) ++ (withItems name e).map Prod.fst

/-- The texts that filling goes through, up to the last or to the first name without a value. -/
def textsWhileFilling (scope : Scope) : List String → List Char → State → List (List Char)
  | [], text, _ => [text]
  | name :: names, text, state =>
    if occurs (placeholder name) text then
      match scope.resolve name state with
      | (.ok value, next) =>
        text :: textsWhileFilling scope names (replaceAll (placeholder name) value.toList text) next
      | (.error _, _) => [text]
    else textsWhileFilling scope names text state

/-- The working texts of an expansion. -/
def workingTexts (template : Template) (seed : UInt64) (registry : Registry) (rowCounts : RowCounts) :
    List (List Char) :=
  textsWhileFilling (template.scope registry rowCounts) template.substitutions.keys template.body.toList
    (.ofSeed seed)

/-! ### One define more -/

section

variable {registry : Registry} {rest : List Char} {before after : List (List Char)}
  {entries pre post : List (String × Expr)} {name : String} {e : Expr} {id : Nat} {keep : String → Bool}

theorem eq_of_forall₂_defines {lines : List (List Char)} {first second : List (String × Expr)}
    (hfirst : List.Forall₂ (Defines registry) lines first)
    (hsecond : List.Forall₂ (Defines registry) lines second) : first = second := by
  induction hfirst generalizing second with
  | nil =>
      cases hsecond
      rfl
  | cons hentry _ ih =>
      cases hsecond with
      | cons hother hsecond => rw [hentry.unique hother, ih hsecond]

/-- The defines of a text with one define more are those of the text with one entry more. -/
theorem exists_defines_split {first second : List (String × Expr)}
    (hfirst : List.Forall₂ (Defines registry) (before ++ after) first)
    (hsecond : List.Forall₂ (Defines registry) (before ++ rest :: after) second)
    (hrest : Defines registry rest (name, e)) :
    ∃ pre post, first = pre ++ post ∧ second = pre ++ (name, e) :: post := by
  induction before generalizing first second with
  | nil =>
      cases hsecond with
      | cons hentry hsecond =>
          obtain rfl := eq_of_forall₂_defines hfirst hsecond
          obtain rfl := hrest.unique hentry
          exact ⟨[], first, rfl, rfl⟩
  | cons other before ih =>
      cases hfirst with
      | cons hentry hfirst =>
          cases hsecond with
          | cons hother hsecond =>
              obtain rfl := hentry.unique hother
              obtain ⟨pre, post, rfl, rfl⟩ := ih hfirst hsecond
              exact ⟨_ :: pre, post, rfl, rfl⟩

/-- A define whose name is new leaves the other defines as they are. -/
theorem defines_insert (hnew : name ∉ (pre ++ post).map Prod.fst) :
    keepNames (fun key => decide (key ≠ name))
        ((∅ : OrderedMap Expr).insertMany (pre ++ (name, e) :: post)).entries =
      ((∅ : OrderedMap Expr).insertMany (pre ++ post)).entries ∧
    ((∅ : OrderedMap Expr).insertMany (pre ++ (name, e) :: post)).find? name = some e := by
  have hkeep : ∀ entry ∈ pre ++ post, decide (entry.1 ≠ name) = true := by
    intro entry hentry
    rw [decide_eq_true_iff]
    rintro rfl
    exact hnew (List.mem_map_of_mem hentry)
  rw [List.forall_mem_append] at hkeep
  constructor
  · rw [OrderedMap.keepNames_insertMany _ ∅ rfl, keepNames_append,
      keepNames_cons_of_neg (by simp), keepNames_eq_self hkeep.1, keepNames_eq_self hkeep.2]
  · have hpost : name ∉ post.map Prod.fst := by
      intro hmem
      exact hnew (by rw [List.map_append]; exact List.mem_append_right _ hmem)
    rw [OrderedMap.insertMany_append, OrderedMap.insertMany_cons,
      OrderedMap.find?_insertMany_of_notMem hpost, OrderedMap.find?_insert, if_pos rfl]

/-- The names that a define does not bring with it. -/
def besides (name : String) (e : Expr) (key : String) : Bool :=
  decide (key ∉ namesOf name e)

theorem keepNames_withItems (name : String) (e : Expr) :
    keepNames (besides name e) (withItems name e) = [] := by
  apply keepNames_eq_nil
  intro entry hentry
  have hmem : entry.1 ∈ namesOf name e := List.mem_append_right _ (List.mem_map_of_mem hentry)
  rw [besides, decide_eq_false_iff_not]
  exact fun h => h hmem

/-- Without the names of a define, the substitutions of all defines are those of the other defines. -/
theorem keepNames_flatMap_withItems (hsame : ∀ entry ∈ entries, entry.1 = name → entry.2 = e)
    (hother : ∀ entry ∈ entries, entry.1 ≠ name →
      ∀ item ∈ withItems entry.1 entry.2, besides name e item.1 = true) :
    keepNames (besides name e) (entries.flatMap fun (name, e) => withItems name e) =
      (keepNames (fun key => decide (key ≠ name)) entries).flatMap fun (name, e) => withItems name e := by
  induction entries with
  | nil => rfl
  | cons entry entries ih =>
      obtain ⟨hfirst, hrest⟩ := List.forall_mem_cons.1 hsame
      obtain ⟨hitems, hothers⟩ := List.forall_mem_cons.1 hother
      obtain ⟨key, value⟩ := entry
      rw [List.flatMap_cons, keepNames_append, ih hrest hothers]
      by_cases hkey : key = name
      · obtain rfl : value = e := hfirst hkey
        subst hkey
        rw [keepNames_withItems, keepNames_cons_of_neg (by simp), List.nil_append]
      · rw [keepNames_eq_self (hitems hkey), keepNames_cons_of_pos (by simpa using hkey), List.flatMap_cons]

/-- Without the names of a define, the helpers are those that there are without the define. -/
theorem keepNames_helpers {first second : OrderedMap Expr} {limits more : List (String × Expr)}
    (hfirst : helpers first = .ok limits) (hsecond : helpers second = .ok more)
    (hsame : ∀ key ≠ name, second.find? key = first.find? key) (hnew : first.find? name = none)
    (hkept : ∀ entry ∈ limits, besides name e entry.1 = true) :
    keepNames (besides name e) more = limits := by
  by_cases hname : name = limitName
  · subst hname
    have hlimits : limits = [] := by
      rcases helpers_eq_ok hfirst with ⟨-, hlimits⟩ | ⟨⟨value, hvalue⟩, -⟩
      · exact hlimits
      · rw [hnew] at hvalue
        cases hvalue
    rw [hlimits]
    apply keepNames_eq_nil
    intro entry hentry
    rw [besides, decide_eq_false_iff_not, not_not]
    apply List.mem_append_left
    rw [if_pos rfl]
    rcases helpers_eq_ok hsecond with ⟨-, rfl⟩ | ⟨-, limit, rfl⟩
    · cases hentry
    · exact List.mem_map_of_mem (f := Prod.fst) hentry
  · have hequal : helpers second = helpers first := by
      unfold helpers
      rw [hsame limitName (Ne.symm hname)]
    obtain rfl : more = limits := Except.ok.inj (hsecond.symm.trans (hequal.trans hfirst))
    exact keepNames_eq_self hkept

theorem mem_keys_assemble {body : List Char} {limits : List (String × Expr)}
    (h : name ∈ entries.map Prod.fst) :
    name ∈ (assemble id body ((∅ : OrderedMap Expr).insertMany entries) limits).substitutions.keys := by
  have hkeys : name ∈ ((∅ : OrderedMap Expr).insertMany entries).keys :=
    OrderedMap.mem_keys_insertMany.2 (.inr h)
  obtain ⟨value, hvalue⟩ := OrderedMap.mem_keys_iff.1 hkeys
  apply OrderedMap.mem_keys_ofList.2
  rw [List.map_append]
  apply List.mem_append_right
  exact List.mem_map.2 ⟨(name, value),
    List.mem_flatMap.2 ⟨(name, value), OrderedMap.mem_of_find? hvalue, List.mem_cons_self⟩, rfl⟩

/-- Without the names of a define, the substitutions are those that there are without the define. -/
theorem substitutions_insert {body : List Char} {limits more : List (String × Expr)}
    (hlimits : helpers ((∅ : OrderedMap Expr).insertMany (pre ++ post)) = .ok limits)
    (hmore : helpers ((∅ : OrderedMap Expr).insertMany (pre ++ (name, e) :: post)) = .ok more)
    (hkeys : ∀ key ∈ namesOf name e, key ∉
      (assemble id body ((∅ : OrderedMap Expr).insertMany (pre ++ post)) limits).substitutions.keys) :
    keepNames (besides name e) (assemble id body
        ((∅ : OrderedMap Expr).insertMany (pre ++ (name, e) :: post)) more).substitutions.entries =
      (assemble id body
        ((∅ : OrderedMap Expr).insertMany (pre ++ post)) limits).substitutions.entries := by
  have hself : name ∈ namesOf name e := List.mem_append_right _ List.mem_cons_self
  have hnew : name ∉ (pre ++ post).map Prod.fst := fun hmem => hkeys name hself (mem_keys_assemble hmem)
  obtain ⟨hentries, hfind⟩ := defines_insert (e := e) hnew
  have hkept : ∀ entry ∈ limits ++ ((∅ : OrderedMap Expr).insertMany (pre ++ post)).entries.flatMap
      fun (name, e) => withItems name e, besides name e entry.1 = true := by
    intro entry hentry
    rw [besides, decide_eq_true_iff]
    intro hmem
    exact hkeys _ hmem (OrderedMap.mem_keys_ofList.2 (List.mem_map_of_mem hentry))
  rw [List.forall_mem_append] at hkept
  have hhelpers : keepNames (besides name e) more = limits := by
    refine keepNames_helpers hlimits hmore ?_ (OrderedMap.find?_insertMany_of_notMem hnew) hkept.1
    intro key hkey
    exact OrderedMap.find?_eq_of_keepNames hentries (by simpa using hkey)
  unfold assemble
  rw [OrderedMap.keepNames_ofList, keepNames_append, hhelpers, keepNames_flatMap_withItems, hentries]
  · rintro ⟨key, value⟩ hentry rfl
    exact Option.some.inj ((OrderedMap.find?_of_mem hentry).symm.trans hfind)
  · rintro ⟨key, value⟩ hentry hkey item hitem
    apply hkept.2 item
    rw [← hentries]
    exact List.mem_flatMap.2 ⟨(key, value), List.mem_filter.2 ⟨hentry, by simpa using hkey⟩, hitem⟩

end

/-! ### Two expansions in step -/

section

variable {keep : String → Bool} {scope other : Scope} {names : List String} {text : List Char} {state : State}

theorem mem_textsWhileFilling (scope : Scope) (names : List String) (text : List Char) (state : State) :
    text ∈ textsWhileFilling scope names text state := by
  induction names with
  | nil => exact List.mem_singleton_self text
  | cons name names ih =>
      rw [textsWhileFilling]
      split
      · split <;> exact List.mem_cons_self
      · exact ih

/-- In a scope that knows more names, filling does the same, as long as the placeholders of these names
never occur. -/
theorem fill_eq_of_agreeOn (h : scope.AgreeOn keep other) (hidle : state.inProgress = [])
    (htexts : ∀ working ∈ textsWhileFilling scope (names.filter keep) text state,
      ∀ name ∈ names, keep name = false → occurs (placeholder name) working = false) :
    fill other names text state = fill scope (names.filter keep) text state := by
  induction names generalizing text state with
  | nil => rfl
  | cons name names ih =>
      have hrest : ∀ working ∈ textsWhileFilling scope ((name :: names).filter keep) text state,
          ∀ key ∈ names, keep key = false → occurs (placeholder key) working = false :=
        fun working hworking key hkey => htexts working hworking key (List.mem_cons_of_mem _ hkey)
      cases hname : keep name with
      | false =>
          -- The name is visited in the larger scope only, and its placeholder is not in the text.
          have habsent := htexts text (mem_textsWhileFilling _ _ _ _) name List.mem_cons_self hname
          have hskip : (name :: names).filter keep = names.filter keep :=
            List.filter_cons_of_neg (by simpa using hname)
          rw [hskip] at hrest ⊢
          rw [fill_cons, if_neg (by simpa using habsent), ih hidle hrest]
      | true =>
          have hvisit : (name :: names).filter keep = name :: names.filter keep :=
            List.filter_cons_of_pos hname
          rw [hvisit, textsWhileFilling] at hrest
          rw [hvisit, fill_cons, fill_cons]
          by_cases hoccurs : occurs (placeholder name) text = true
          · have hsame := resolve_eq_of_agreeOn h hname hidle
            have hnext := inProgress_resolve scope name state
            rw [if_pos hoccurs] at hrest
            rw [if_pos hoccurs, if_pos hoccurs]
            rcases hrun : scope.resolve name state with ⟨error | value, next⟩
            · rw [Evaluator.bind_of_error hrun, Evaluator.bind_of_error (hsame ▸ hrun)]
            · rw [Evaluator.bind_of_ok hrun, Evaluator.bind_of_ok (hsame ▸ hrun)]
              rw [hrun] at hrest hnext
              exact ih (hnext.trans hidle) fun working hworking =>
                hrest working (List.mem_cons_of_mem _ hworking)
          · rw [if_neg hoccurs] at hrest
            rw [if_neg hoccurs, if_neg hoccurs, ih hidle hrest]

/-- Two templates with the same body expand alike if the substitutions of the one are some of those of the
other, do without the rest, and the placeholders of the rest never occur. -/
theorem expand_eq_of_keepNames {template more : Template} {seed : UInt64} {registry : Registry}
    {rowCounts : RowCounts} (hbody : more.body = template.body)
    (hkept : keepNames keep more.substitutions.entries = template.substitutions.entries)
    (hclosed : ∀ entry ∈ template.substitutions.entries, ∀ used ∈ entry.2.references, keep used = true)
    (habsent : ∀ working ∈ template.workingTexts seed registry rowCounts, ∀ name, keep name = false →
      occurs (placeholder name) working = false) :
    more.expand seed registry rowCounts = template.expand seed registry rowCounts := by
  have hkeys : more.substitutions.keys.filter keep = template.substitutions.keys := by
    unfold OrderedMap.keys
    rw [List.filter_map, ← hkept]
    rfl
  have hagree : (template.scope registry rowCounts).AgreeOn keep (more.scope registry rowCounts) :=
    { registry := rfl
      rowCounts := rfl
      find? := fun hname => (OrderedMap.find?_eq_of_keepNames hkept hname).symm
      closed := fun _ hfind => hclosed _ (OrderedMap.mem_of_find? hfind) }
  have hfill : fill (more.scope registry rowCounts) more.substitutions.keys template.body.toList
        (.ofSeed seed) =
      fill (template.scope registry rowCounts) template.substitutions.keys template.body.toList
        (.ofSeed seed) := by
    rw [← hkeys]
    apply fill_eq_of_agreeOn hagree rfl
    rw [hkeys]
    exact fun working hworking name _ => habsent working hworking name
  rw [expand, hbody, hfill, expand]

end

/-- **A define that is not used does not disturb a template.** Let a text be read as a template, and let the
text with one more line, a define, be read as a template too. If the names that the define brings with it are
new, if no substitution of the first template asks for one of them, and if none of their placeholders comes
up while the first template is expanded, then both templates expand alike: to the same text, or with the
same error. A name in a list without items is never asked for, so it may also be one of the new names. -/
theorem expand_eq_of_unused_define {id : Nat} {text more : String} {registry : Registry}
    {before after : List (List Char)} {line rest : List Char} {name : String} {e : Expr}
    {template other : Template} (hlines : lines text.toList = before ++ after)
    (hmore : lines more.toList = before ++ line :: after) (hline : Line.classify line = .define rest)
    (hdefine : Defines registry rest (name, e)) (htemplate : parse id text registry = .ok template)
    (hother : parse id more registry = .ok other)
    (hnew : ∀ key ∈ namesOf name e, key ∉ template.substitutions.keys)
    (hunused : ∀ entry ∈ template.substitutions.entries, ∀ key ∈ namesOf name e,
      key ∉ entry.2.references)
    (seed : UInt64) (tables : Registry) (rowCounts : RowCounts)
    (habsent : ∀ working ∈ template.workingTexts seed tables rowCounts, ∀ key ∈ namesOf name e,
      occurs (placeholder key) working = false) :
    other.expand seed tables rowCounts = template.expand seed tables rowCounts := by
  obtain ⟨entries, limits, hentries, hlimits, rfl⟩ := parse_eq_ok_iff.1 htemplate
  obtain ⟨entries', limits', hentries', hlimits', rfl⟩ := parse_eq_ok_iff.1 hother
  have hbody : bodyAmong (lines more.toList) = bodyAmong (lines text.toList) := by
    rw [hlines, hmore, bodyAmong_insert_define hline]
  rw [hlines, definesAmong_append] at hentries
  rw [hmore, definesAmong_append, definesAmong_cons_of_define hline] at hentries'
  obtain ⟨pre, post, rfl, rfl⟩ := exists_defines_split hentries hentries' hdefine
  have hsubstitutions := substitutions_insert hlimits hlimits' hnew
  refine expand_eq_of_keepNames (by rw [assemble, assemble, hbody]) (hbody ▸ hsubstitutions) ?_ ?_
  · intro entry hentry used hused
    rw [besides, decide_eq_true_iff]
    exact fun hmem => hunused entry hentry used hmem hused
  · intro working hworking key hkey
    rw [besides, decide_eq_false_iff_not, not_not] at hkey
    exact habsent working hworking key hkey

/-- A template with one define, which its body uses. -/
def oneDefine : Template :=
  ⟨1, "select [A]\n", ⟨[("A", .text "7")], by simp⟩, ⟨[("A", .text "7")], by simp⟩⟩

/-- The same template with a list that nothing uses. -/
def twoDefines : Template :=
  ⟨1, "select [A]\n", ⟨[("A", .text "7"), ("B", .list (.text "8") 2)], by simp⟩,
    ⟨[("A", .text "7"), ("B", .list (.text "8") 2), ("B.1", .item "B" 0), ("B.2", .item "B" 1)], by simp⟩⟩

theorem defines_number : Defines .empty "A = 7;".toList ("A", .text "7") :=
  ⟨"7", rfl, readExpr_of_bare rfl rfl⟩

theorem defines_list : Defines .empty "B = ulist(8, 2);".toList ("B", .list (.text "8") 2) := by
  have hinner : readExpr .empty "ulist(8, 2)" ['8'] = .ok (.text "8") := readExpr_of_bare rfl rfl
  have hcall : arguments? "ulist(".toList [')'] "ulist(8, 2)".toList = some [['8'], ['2']] := by cbv
  have hlist : Expr.parse "ulist(8, 2)" .empty = .ok (.list (.text "8") 2) :=
    readExpr_of_list rfl hcall rfl (by decide) hinner
  exact ⟨"ulist(8, 2)", rfl, hlist⟩

theorem parse_oneDefine : parse 1 "define A = 7;\nselect [A]" .empty = .ok oneDefine := by
  refine parse_eq_ok_iff.2 ⟨[("A", .text "7")], [], .cons defines_number .nil, rfl, ?_⟩
  rw [assemble, OrderedMap.ofList_eq_insertMany]
  rfl

theorem parse_twoDefines :
    parse 1 "define A = 7;\ndefine B = ulist(8, 2);\nselect [A]" .empty = .ok twoDefines := by
  refine parse_eq_ok_iff.2 ⟨[("A", .text "7"), ("B", .list (.text "8") 2)], [],
    .cons defines_number (.cons defines_list .nil), rfl, ?_⟩
  rw [assemble, OrderedMap.ofList_eq_insertMany]
  rfl

theorem workingTexts_oneDefine :
    oneDefine.workingTexts 0 .empty .scaleOne = ["select [A]\n".toList, "select 7\n".toList] := by
  have hfind : (oneDefine.scope .empty .scaleOne).substitutions.find? "A" = some (.text "7") := rfl
  obtain ⟨next, hresolve, -⟩ :=
    @exists_resolve_of_text _ _ _ (.ofSeed 0) hfind (by simp [State.ofSeed]) (by simp [State.ofSeed])
  have hkeys : oneDefine.substitutions.keys = ["A"] := rfl
  have hfilled : replaceAll (placeholder "A") "7".toList "select [A]\n".toList = "select 7\n".toList := by
    cbv
  rw [workingTexts, hkeys, textsWhileFilling, if_pos (by decide), hresolve]
  exact congrArg (["select [A]\n".toList, ·]) hfilled

theorem expand_twoDefines :
    parse 1 "define A = 7;\nselect [A]" .empty = .ok oneDefine ∧
      parse 1 "define A = 7;\ndefine B = ulist(8, 2);\nselect [A]" .empty = .ok twoDefines ∧
      twoDefines.expand 0 .empty .scaleOne = oneDefine.expand 0 .empty .scaleOne := by
  have hlines : lines "define A = 7;\nselect [A]".toList =
      ["define A = 7;".toList] ++ ["select [A]".toList] := by decide
  have hmore : lines "define A = 7;\ndefine B = ulist(8, 2);\nselect [A]".toList =
      ["define A = 7;".toList] ++ "define B = ulist(8, 2);".toList :: ["select [A]".toList] := by decide
  refine ⟨parse_oneDefine, parse_twoDefines, ?_⟩
  apply expand_eq_of_unused_define hlines hmore (by decide) defines_list parse_oneDefine parse_twoDefines
    (by decide) (by decide)
  rw [workingTexts_oneDefine]
  decide

end QueryVariants.Template
