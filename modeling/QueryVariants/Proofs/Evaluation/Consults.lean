import QueryVariants.Evaluation.Resolve

/-!
# What an evaluation asks of its names

`evaluate` is told by a parameter how names get their values. `Consults` makes that a property one can
argue from: a computation is put together from results, draws and requests for names, and every request
is for a name of a given list. Whatever holds of each of these steps holds of the whole evaluation, so
the induction over the forms of an expression is done here once.
-/

namespace QueryVariants

open Macro

/-! ### Running computations in sequence -/

namespace Evaluation.Evaluator

variable {α β : Type} {m : Evaluator α} {f : α → Evaluator β} {state next : State}

theorem bind_apply (m : Evaluator α) (f : α → Evaluator β) (state : State) :
    (m >>= f) state = ExceptT.bindCont f (m state).1 (m state).2 := rfl

theorem bind_of_ok {value : α} (h : m state = (.ok value, next)) :
    (m >>= f) state = f value next := by
  rw [bind_apply, h]
  rfl

theorem bind_of_error {e : Error} (h : m state = (.error e, next)) :
    (m >>= f) state = (.error e, next) := by
  rw [bind_apply, h]
  rfl

theorem bind_congr_left {other : Evaluator α} (h : m state = other state) :
    (m >>= f) state = (other >>= f) state := by
  rcases hm : m state with ⟨e | value, next⟩
  · rw [bind_of_error hm, bind_of_error (h ▸ hm)]
  · rw [bind_of_ok hm, bind_of_ok (h ▸ hm)]

/-- A sequence that succeeds did so step by step. -/
theorem exists_of_bind_ok {value : β} {final : State} (h : (m >>= f) state = (.ok value, final)) :
    ∃ first next, m state = (.ok first, next) ∧ f first next = (.ok value, final) := by
  rcases hm : m state with ⟨e | first, next⟩
  · rw [bind_of_error hm] at h
    cases (Prod.mk.inj h).1
  · rw [bind_of_ok hm] at h
    exact ⟨first, next, rfl, h⟩

end Evaluation.Evaluator

/-! ### The names of an expression -/

namespace Macro.Expr

/-- The names that an evaluation asks for. A list without items evaluates nothing, so it asks for
none. -/
def references : Expr → List String
  | text _ | rowCount _ | draw _ _ _ | choice _ => []
  | format inner _ | divide inner _ => inner.references
  | list inner count => if count = 0 then [] else inner.references
  | random first second | append first second | date first second _ =>
    first.references ++ second.references
  | member index _ _ => index.references
  | reference name | item name _ => [name]

/-- An expression and all expressions in it. -/
def nodes : Expr → List Expr
  | format inner value => format inner value :: inner.nodes
  | divide inner divisor => divide inner divisor :: inner.nodes
  | list inner count => list inner count :: inner.nodes
  | member index table field => member index table field :: index.nodes
  | random first second => random first second :: (first.nodes ++ second.nodes)
  | date first second kind => date first second kind :: (first.nodes ++ second.nodes)
  | append first second => append first second :: (first.nodes ++ second.nodes)
  | e => [e]

end Macro.Expr

/-- Whether an error says that a name has no usable value. -/
def Error.aboutName : Error → Bool
  | unknownSubstitution _ | cyclicReference _ | notAList _ | cacheShape _
  | listIndexOutOfRange _ _ _ => true
  | _ => false

/-- Whether an error says that a macro is misformed or that one of its values does not fit. -/
def Error.aboutMacro : Error → Bool
  | parse _ _ | unknownDistribution _ | unknownWeight _ _ _ | fieldOutOfRange _ _ _ | rowOutOfRange _ _ _
  | emptyWeights _ _ | weightOverflow _ _ _ | unknownRelation _ | invalidNumber _ _ | invalidDate _
  | emptyRange _ _ => true
  | _ => false

theorem Error.aboutName_of_aboutMacro {e : Error} (h : e.aboutMacro = true) : e.aboutName = false := by
  cases e <;> first | rfl | cases h

/-! ### What can be wrong with a table -/

namespace Table

variable {table : Table} {field column row weight : Nat} {e : Error}

theorem aboutMacro_of_valueColumn (h : table.valueColumn field = .error e) : e.aboutMacro = true := by
  unfold valueColumn at h
  split at h
  · simp at h
  · obtain rfl := Except.error.inj h
    rfl

theorem aboutMacro_of_cell (h : table.cell field row = .error e) : e.aboutMacro = true := by
  unfold cell at h
  rcases hcolumn : table.valueColumn field with e' | values
  · rw [hcolumn] at h
    obtain rfl := Except.error.inj h
    exact aboutMacro_of_valueColumn hcolumn
  · rw [hcolumn] at h
    simp only [bind, Except.bind] at h
    split at h
    · simp at h
    · obtain rfl := Except.error.inj h
      rfl

theorem aboutMacro_of_weightColumn (h : table.weightColumn column = .error e) :
    e.aboutMacro = true := by
  unfold weightColumn at h
  split at h
  · simp at h
  · obtain rfl := Except.error.inj h
    rfl

theorem aboutMacro_of_totalWeight (h : table.totalWeight column = .error e) :
    e.aboutMacro = true := by
  rcases hcolumn : table.weightColumn column with e' | weights
  · rw [totalWeight, hcolumn] at h
    obtain rfl := Except.error.inj h
    exact aboutMacro_of_weightColumn hcolumn
  · simp [totalWeight, hcolumn, Except.map] at h

theorem aboutMacro_of_rowForWeight (h : table.rowForWeight column weight = .error e) :
    e.aboutMacro = true := by
  rcases hcolumn : table.weightColumn column with e' | weights
  · simp only [rowForWeight, cumulative, hcolumn, Except.map, bind, Except.bind] at h
    obtain rfl := Except.error.inj h
    exact aboutMacro_of_weightColumn hcolumn
  · simp only [rowForWeight, cumulative, hcolumn, Except.map, bind, Except.bind] at h
    split at h
    · simp at h
    · obtain rfl := Except.error.inj h
      rfl

theorem aboutMacro_of_drawRow {stream : Random.Stream}
    (h : (table.drawRow column stream).1 = .error e) : e.aboutMacro = true := by
  unfold drawRow at h
  split at h
  · next htotal =>
    obtain rfl := Except.error.inj h
    exact aboutMacro_of_totalWeight htotal
  · obtain rfl := Except.error.inj h
    rfl
  · exact aboutMacro_of_rowForWeight h

theorem aboutMacro_of_drawValue {stream : Random.Stream}
    (h : (table.drawValue field column stream).1 = .error e) : e.aboutMacro = true := by
  rcases hrow : (table.drawRow column stream).1 with e' | row
  · simp only [drawValue, hrow, Except.bind] at h
    obtain rfl := Except.error.inj h
    exact aboutMacro_of_drawRow hrow
  · simp only [drawValue, hrow, Except.bind] at h
    exact aboutMacro_of_cell h

end Table

namespace Evaluation

open Text

/-- A computation that asks for no names but those of `may`, has asked for all of `must` when it
succeeds, and raises no errors of its own but those in `own`. -/
inductive Consults (own : Error → Prop) (may : List String) :
    {α : Type} → List String → (Names → Evaluator α) → Prop
  | ofExcept {α : Type} {must : List String} (result : Except Error α)
    (hown : ∀ e, result = .error e → own e) (hmust : ∀ value, result = .ok value → must = []) :
    Consults own may must fun _ => Evaluator.ofExcept result
  | onStream {α : Type} (f : Random.Stream → Except Error α × Random.Stream)
    (hown : ∀ stream e, (f stream).1 = .error e → own e) :
    Consults own may [] fun _ => Evaluator.onStream f
  | bind {α β : Type} {first : Names → Evaluator α} {rest : α → Names → Evaluator β}
    {before after : List String} (hfirst : Consults own may before first)
    (hrest : ∀ value, Consults own may after (rest value)) :
    Consults own may (before ++ after) fun names => first names >>= fun value => rest value names
  | value {name : String} (hname : name ∈ may) :
    Consults own may [name] fun names => names.value name
  | item {name : String} (index : Nat) (hname : name ∈ may) :
    Consults own may [name] fun names => names.item name index
  | weaken {α : Type} {must fewer : List String} {m : Names → Evaluator α}
    (hsub : fewer ⊆ must) (hm : Consults own may must m) : Consults own may fewer m

namespace Consults

variable {own : Error → Prop} {may must other : List String} {α : Type}

theorem check {result : Except Error α} (h : ∀ e, result = .error e → own e) :
    Consults own may [] fun _ => Evaluator.ofExcept result :=
  .ofExcept result h fun _ _ => rfl

theorem pure (value : α) : Consults own may [] fun _ => Pure.pure value :=
  .ofExcept (.ok value) (by simp) fun _ _ => rfl

theorem throw {e : Error} (h : own e) :
    Consults own may must fun _ => (MonadExcept.throw e : Evaluator α) :=
  .ofExcept (.error e) (by rintro _ ⟨⟩; exact h) (by simp)

theorem drawBetween (low high : Int) : Consults own may [] fun _ => Evaluator.between low high :=
  .onStream _ (by simp)

theorem drawBelow (width : Nat) : Consults own may [] fun _ => Evaluator.below width :=
  .onStream _ (by simp)

theorem ite {c : Prop} [Decidable c] {first second : Names → Evaluator α}
    (hfirst : c → Consults own may must first) (hsecond : ¬c → Consults own may must second) :
    Consults own may must fun names => if c then first names else second names := by
  by_cases hc : c
  · simpa only [if_pos hc] using hfirst hc
  · simpa only [if_neg hc] using hsecond hc

theorem bind_left {β : Type} {first : Names → Evaluator α} {rest : α → Names → Evaluator β}
    (hfirst : Consults own may must first) (hrest : ∀ value, Consults own may [] (rest value)) :
    Consults own may must fun names => first names >>= fun value => rest value names := by
  simpa only [List.append_nil] using Consults.bind hfirst hrest

theorem bind_right {β : Type} {first : Names → Evaluator α} {rest : α → Names → Evaluator β}
    (hfirst : Consults own may [] first) (hrest : ∀ value, Consults own may must (rest value)) :
    Consults own may must fun names => first names >>= fun value => rest value names := by
  simpa only [List.nil_append] using Consults.bind hfirst hrest

theorem mono {m : Names → Evaluator α} (h : Consults own may must m) (hsub : may ⊆ other) :
    Consults own other must m := by
  induction h with
  | ofExcept result hown hmust => exact .ofExcept result hown hmust
  | onStream f hown => exact .onStream f hown
  | bind _ _ ihfirst ihrest => exact .bind ihfirst ihrest
  | value hname => exact .value (hsub hname)
  | item index hname => exact .item index (hsub hname)
  | weaken hfewer _ ih => exact .weaken hfewer ih

end Consults

/-! ### Expressions -/

theorem aboutMacro_of_readInteger {place value : String} {e : Error}
    (h : readInteger place value = .error e) : e.aboutMacro = true := by
  unfold readInteger at h
  split at h
  · simp at h
  · obtain rfl := Except.error.inj h
    rfl

theorem aboutMacro_of_readDate {value : String} {e : Error} (h : readDate value = .error e) :
    e.aboutMacro = true := by
  unfold readDate at h
  split at h
  · simp at h
  · obtain rfl := Except.error.inj h
    rfl

theorem aboutMacro_of_rowCount {scope : Scope} {relation : String} {e : Error}
    (h : scope.rowCount relation = .error e) : e.aboutMacro = true := by
  unfold Scope.rowCount at h
  split at h
  · simp at h
  · split at h
    · simp at h
    · obtain rfl := Except.error.inj h
      rfl

theorem consults_collect {own : Error → Prop} {may must : List String}
    {draw : Names → Evaluator String} (hdraw : Consults own may must draw) (missing budget : Nat)
    (seen : Std.HashSet String) (items : List String) :
    Consults own may (if missing = 0 then [] else must) fun names =>
      collect (draw names) missing budget seen items := by
  induction missing, budget, seen, items using collect.induct with
  | case1 budget seen items =>
      simp only [collect]
      exact .pure _
  | case2 budget seen items missing ihnew ihrepeated =>
      conv => enter [4, names]; rw [collect]
      refine .bind_left hdraw fun value => ?_
      refine .ite (fun _ => .weaken (List.nil_subset _) (ihnew value)) fun _ => ?_
      specialize ihrepeated value
      cases budget with
      | zero => exact .weaken (List.nil_subset _) ihrepeated
      | succ budget => exact .weaken (List.nil_subset _) ihrepeated

theorem consults_collectDistinct {own : Error → Prop} {may must : List String}
    {draw : Names → Evaluator String} {count : Nat}
    (hdraw : count ≠ 0 → Consults own may must draw) :
    Consults own may (if count = 0 then [] else must) fun names =>
      collectDistinct (draw names) count := by
  cases count with
  | zero =>
      simp only [collectDistinct, collect]
      exact .pure _
  | succ count => exact consults_collect (hdraw (by simp)) _ _ _ _

/-- The items of a list ask for the names of the expression that is repeated. -/
theorem consults_items {own : Error → Prop} {inner : Expr} {count : Nat} {α : Type}
    {draw : Names → Evaluator String} {build : List String → α}
    (hdraw : Consults own inner.references inner.references draw) :
    Consults own (Expr.list inner count).references (Expr.list inner count).references fun names =>
      collectDistinct (draw names) count >>= fun items => Pure.pure (build items) := by
  simp only [Expr.references]
  refine .bind_left (consults_collectDistinct fun hcount => ?_) fun items => .pure _
  simpa only [if_neg hcount] using hdraw

/-- The errors that a node of an expression raises by itself, rather than through its operands or through
names. -/
def Raises (scope : Scope) : Expr → Error → Prop
  | .rowCount relation, error => scope.rowCount relation = .error error
  | .random _ _, error =>
    (∃ place value, readInteger place value = .error error) ∨ ∃ start stop, error = .emptyRange start stop
  | .date _ _ _, error =>
    (∃ value, readDate value = .error error) ∨ ∃ start stop, error = .emptyRange start stop
  | .divide _ _, error => ∃ place value, readInteger place value = .error error
  | .member _ table field, error =>
    (∃ place value, readInteger place value = .error error) ∨
      (∃ row, error = .rowOutOfRange table.name row table.size) ∨
      ∃ row < table.size, table.cell field row = .error error
  | .draw table field column, error => ∃ stream, (table.drawValue field column stream).1 = .error error
  | .choice options, error =>
    (UInt64.size ≤ Weights.total (options.map Prod.snd) ∧
      error = .invalidNumber (Expr.choice options).render "text() total weight") ∨
    (Weights.total (options.map Prod.snd) = 0 ∧ error = .emptyRange "0" "0")
  | _, _ => False

theorem aboutMacro_of_raises {scope : Scope} {node : Expr} {error : Error} (h : Raises scope node error) :
    error.aboutMacro = true := by
  cases node with
  | rowCount relation => exact aboutMacro_of_rowCount h
  | random start stop =>
      rcases h with ⟨place, value, h⟩ | ⟨start, stop, rfl⟩
      · exact aboutMacro_of_readInteger h
      · rfl
  | date first last kind =>
      rcases h with ⟨value, h⟩ | ⟨start, stop, rfl⟩
      · exact aboutMacro_of_readDate h
      · rfl
  | divide inner divisor =>
      obtain ⟨place, value, h⟩ := h
      exact aboutMacro_of_readInteger h
  | member index table field =>
      rcases h with ⟨place, value, h⟩ | ⟨row, rfl⟩ | ⟨row, -, h⟩
      · exact aboutMacro_of_readInteger h
      · rfl
      · exact Table.aboutMacro_of_cell h
  | draw table field column =>
      obtain ⟨stream, h⟩ := h
      exact Table.aboutMacro_of_drawValue h
  | choice options => rcases h with ⟨-, rfl⟩ | ⟨-, rfl⟩ <;> rfl
  | _ => cases h

theorem aboutName_of_raises {scope : Scope} {node : Expr} {error : Error} (h : Raises scope node error) :
    error.aboutName = false :=
  Error.aboutName_of_aboutMacro (aboutMacro_of_raises h)

section

variable {own : Error → Prop} {scope : Scope}

/-- An evaluation asks for the names of its expression, for all of them if it succeeds, and its own errors
are those of the nodes. -/
theorem consults_evaluate_of {e : Expr} (h : ∀ node ∈ e.nodes, ∀ error, Raises scope node error → own error) :
    Consults own e.references e.references fun names => evaluate scope names e := by
  induction e with
  | text value => exact .pure value
  | rowCount relation =>
      have hnode := h _ List.mem_cons_self
      simp only [evaluate]
      exact .bind_right (.check hnode) fun count => .pure _
  | format inner value ih =>
      simp only [evaluate]
      exact .bind_left (ih fun node hnode => h node (List.mem_cons_of_mem _ hnode)) fun input => .pure _
  | random start stop ihstart ihstop =>
      obtain ⟨hnode, hoperands⟩ := List.forall_mem_cons.1 h
      obtain ⟨hfirst, hsecond⟩ := List.forall_mem_append.1 hoperands
      simp only [evaluate, Expr.references]
      refine .bind ((ihstart hfirst).mono (List.subset_append_left _ _)) fun startValue => ?_
      refine .bind_right (.check fun error herror => hnode error (.inl ⟨_, _, herror⟩)) fun low => ?_
      refine .bind_left ((ihstop hsecond).mono (List.subset_append_right _ _)) fun stopValue => ?_
      refine .bind_right (.check fun error herror => hnode error (.inl ⟨_, _, herror⟩)) fun high => ?_
      refine .ite (fun _ => .throw (hnode _ (.inr ⟨_, _, rfl⟩))) fun _ => ?_
      exact .bind_right (.drawBetween _ _) fun value => .pure _
  | list inner count ih =>
      simp only [evaluate]
      exact consults_items (ih fun node hnode => h node (List.mem_cons_of_mem _ hnode))
  | date first last kind ihfirst ihlast =>
      obtain ⟨hnode, hoperands⟩ := List.forall_mem_cons.1 h
      obtain ⟨hfirst, hsecond⟩ := List.forall_mem_append.1 hoperands
      simp only [evaluate, Expr.references]
      refine .bind ((ihfirst hfirst).mono (List.subset_append_left _ _)) fun firstValue => ?_
      refine .bind_right (.check fun error herror => hnode error (.inl ⟨_, herror⟩)) fun low => ?_
      refine .bind_left ((ihlast hsecond).mono (List.subset_append_right _ _)) fun lastValue => ?_
      refine .bind_right (.check fun error herror => hnode error (.inl ⟨_, herror⟩)) fun high => ?_
      refine .ite (fun _ => .throw (hnode _ (.inr ⟨_, _, rfl⟩))) fun _ => ?_
      exact .bind_right (.drawBetween _ _) fun offset => .pure _
  | divide inner divisor ih =>
      obtain ⟨hnode, hoperand⟩ := List.forall_mem_cons.1 h
      simp only [evaluate]
      refine .bind_left (ih hoperand) fun value => ?_
      exact .bind_right (.check fun error herror => hnode error ⟨_, _, herror⟩) fun dividend => .pure _
  | member index table field ih =>
      obtain ⟨hnode, hoperand⟩ := List.forall_mem_cons.1 h
      simp only [evaluate]
      refine .bind_left (ih hoperand) fun value => ?_
      refine .bind_right (.check fun error herror => hnode error (.inl ⟨_, _, herror⟩)) fun row => ?_
      refine .ite (fun _ => .throw (hnode _ (.inr (.inl ⟨_, rfl⟩)))) fun hrow => ?_
      exact .check fun error herror => hnode error (.inr (.inr ⟨_, by omega, herror⟩))
  | draw table field column =>
      have hnode := h _ List.mem_cons_self
      simp only [evaluate]
      exact .onStream _ fun stream error herror => hnode error ⟨stream, herror⟩
  | reference name => exact .value (List.mem_singleton_self name)
  | item name index => exact .item index (List.mem_singleton_self name)
  | choice options =>
      have hnode := h _ List.mem_cons_self
      simp only [evaluate]
      refine .ite (fun htotal => .throw (hnode _ (.inl ⟨htotal, rfl⟩))) fun _ => ?_
      refine .ite (fun htotal => .throw (hnode _ (.inr ⟨htotal, rfl⟩))) fun _ => ?_
      exact .bind_right (.drawBelow _) fun draw => .pure _
  | append left right ihleft ihright =>
      obtain ⟨hleft, hright⟩ := List.forall_mem_append.1 (List.forall_mem_cons.1 h).2
      simp only [evaluate, Expr.references]
      refine .bind ((ihleft hleft).mono (List.subset_append_left _ _)) fun leftValue => ?_
      exact .bind_left ((ihright hright).mono (List.subset_append_right _ _)) fun rightValue => .pure _

/-- The value of a name is computed by asking for the names of its expression. -/
theorem consults_compute_of {e : Expr} (h : ∀ node ∈ e.nodes, ∀ error, Raises scope node error → own error) :
    Consults own e.references e.references fun names => compute scope names e := by
  cases e with
  | list inner count =>
      simp only [compute]
      exact consults_items (consults_evaluate_of fun node hnode => h node (List.mem_cons_of_mem _ hnode))
  | _ =>
      simp only [compute]
      exact .bind_left (consults_evaluate_of h) fun text => .pure _

/-- The errors that an evaluation raises itself are not about names. -/
theorem consults_evaluate (scope : Scope) (e : Expr) :
    Consults (·.aboutName = false) e.references e.references fun names =>
      evaluate scope names e :=
  consults_evaluate_of fun _ _ _ => aboutName_of_raises

theorem consults_compute (scope : Scope) (e : Expr) :
    Consults (·.aboutName = false) e.references e.references fun names => compute scope names e :=
  consults_compute_of fun _ _ _ => aboutName_of_raises

end

end Evaluation

end QueryVariants
