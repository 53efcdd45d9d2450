import QueryVariants.Evaluation.Guarded
import QueryVariants.Proofs.Calendar
import QueryVariants.Proofs.Distribution.Drawing
import QueryVariants.Proofs.Evaluation.Cycles
import QueryVariants.Proofs.Evaluation.Errors
import QueryVariants.Proofs.Random.Range

/-!
# Evaluation with guards

The evaluation with guards is compared here with the one without. `Follows` says that it stops at a fault or
does the same, in every state with given names in progress; it has a rule for each way in which computations
are put together, and the inductions over the forms of an expression and over the depth of nesting are done
once. A whole family of guarded computations is compared at a time. Its members differ in how they report
faults and in how deep they may nest, so they all stop at one fault or all do the same.

What an evaluation can stop at is read off the expression. Most guards never fail: a range that is drawn from
is never empty, a day between two dates is a date, a number below the total weight belongs to a choice. For
sound expressions no guard is left that can fail.
-/

namespace QueryVariants.Evaluation

open Macro Text Relation

/-! ### Faults that can be met -/

/-- The faults that the evaluation of an expression can come to by itself, and not through names. The draws, days
and choices are not among them: whatever is drawn, those are in range. -/
def Risks (scope : Scope) (fault : Fault) : Expr → Prop
  | .rowCount relation => fault = .noColumn ∧ scope.rowCounts.find? relation = none ∧
    ∃ table, scope.registry.find? relation = some table ∧ table.fields = []
  | .format inner _ => Risks scope fault inner
  | .list inner count =>
    (fault = .listTooLong ∧ maxSigned < 64 * discardBudget count) ∨ (count ≠ 0 ∧ Risks scope fault inner)
  | .random first second | .date first second _ | .append first second =>
    Risks scope fault first ∨ Risks scope fault second
  | .divide inner divisor => (fault = .divisionByZero ∧ divisor = 0) ∨
    (fault = .divisionOverflow ∧ divisor = -1) ∨ Risks scope fault inner
  | .member index table _ => (fault = .noColumn ∧ table.fields = []) ∨ Risks scope fault index
  | .text _ | .draw _ _ _ | .reference _ | .item _ _ | .choice _ => False

/-- The faults that the evaluation of a name can come to, by itself or through the names it needs. -/
def Scope.Risks (scope : Scope) (name : String) (fault : Fault) : Prop :=
  ∃ other e, ReflTransGen scope.Refers name other ∧ scope.substitutions.find? other = some e ∧
    Evaluation.Risks scope fault e

namespace Guarded

/-! ### Guards that hold -/

section

variable {report : Fault → Error}

theorem guarding_bind {α : Type} {condition : Prop} [Decidable condition] {fault : Fault} {m : Unit → Evaluator α}
    (h : condition) : guarding report condition fault >>= m = m () := by
  rw [guarding, if_pos h, pure_bind]

theorem below_eq {width : Nat} (h : 0 < width) : below report width = Evaluator.below width :=
  guarding_bind h

theorem valid_of_readDate {value : String} {date : Date} (h : readDate value = .ok date) : date.Valid := by
  unfold readDate at h
  split at h
  · rename_i found hfound
    obtain rfl := Except.ok.inj h
    exact Date.valid_of_read? hfound
  · cases h

/-- A day between two dates has a date. -/
theorem dateOfDay_eq {low high : Date} {offset : Int} (hlow : low.Valid) (hhigh : high.Valid)
    (hoffset : 0 ≤ offset) (hspan : offset ≤ high.dayNumber - low.dayNumber) :
    dateOfDay report (low.dayNumber + offset) = pure (Date.ofDayNumber (low.dayNumber + offset)) := by
  have hfirst := (Date.dayNumber_range hlow).1
  have hlast := (Date.dayNumber_range hhigh).2
  exact guarding_bind ⟨by omega, by omega⟩

/-- A number below the total belongs to a choice. -/
theorem exists_pickOption {draw : Nat} {options : List (String × Nat)}
    (h : draw < Weights.total (options.map Prod.snd)) : ∃ text, pickOption draw options = some text := by
  induction options generalizing draw with
  | nil => cases h
  | cons option options ih =>
      obtain ⟨text, weight⟩ := option
      rw [pickOption]
      by_cases hle : draw ≤ weight
      · exact ⟨text, if_pos hle⟩
      · rw [if_neg hle]
        rw [List.map_cons, Weights.total] at h
        exact ih (by omega)

/-- A draw from a table has a guard only where there are weights to draw from. -/
theorem drawValue_eq (table : Table) (field column : Nat) :
    drawValue report table field column = Evaluator.onStream (table.drawValue field column) := by
  funext state
  rcases htotal : table.totalWeight column with error | total
  · have hrow : table.drawRow column state.stream = (.error error, state.stream) := by
      rw [Table.drawRow, htotal]
    rw [drawValue, htotal, Evaluator.onStream, Table.drawValue, hrow]
    rfl
  · rcases Nat.eq_zero_or_pos total with rfl | hpos
    · have hrow : table.drawRow column state.stream =
          (.error (.emptyWeights table.name column), state.stream) := by
        rw [Table.drawRow, htotal]
        rfl
      rw [drawValue, htotal, Evaluator.onStream, Table.drawValue, hrow]
      rfl
    · have hguarded : drawValue report table field column state =
          (do
            let offset ← Evaluator.below total
            let row ← Evaluator.ofExcept (table.rowForWeight column (1 + offset))
            Evaluator.ofExcept (table.cell field row) : Evaluator String) state := by
        have hguard : below report total = Evaluator.below total := below_eq hpos
        rw [drawValue, htotal, ← hguard]
        exact congrFun (if_neg (Nat.ne_of_gt hpos)) state
      have hbelow : Evaluator.below total state = (.ok (state.stream.below total).1,
          { state with stream := (state.stream.below total).2 }) := rfl
      rw [hguarded, Evaluator.bind_of_ok hbelow, Evaluator.onStream, Table.drawValue,
        Table.drawRow_of_pos _ htotal hpos]
      cases table.rowForWeight column (1 + (state.stream.below total).1) <;> rfl

theorem bounds_of_between {low high value : Int} {state next : State} (hle : low ≤ high)
    (hlow : -(maxSigned + 1 : Int) ≤ low) (hhigh : high ≤ maxSigned)
    (h : Evaluator.between low high state = (.ok value, next)) : low ≤ value ∧ value ≤ high := by
  obtain rfl : (state.stream.between low high).1 = value := Except.ok.inj (Prod.mk.inj h).1
  exact state.stream.between_bounds hle hlow hhigh

theorem lt_of_below {width value : Nat} {state next : State} (hwidth : 0 < width)
    (h : Evaluator.below width state = (.ok value, next)) : value < width := by
  obtain rfl : (state.stream.below width).1 = value := Except.ok.inj (Prod.mk.inj h).1
  exact state.stream.below_lt hwidth

end

/-! ### Following a computation without guards -/

/-- In every state with the names of `stack` in progress, the guarded computations all stop at one of the faults
that are `allowed`, or they all do what the one without guards does, which takes the names it enters off again. -/
def Follows {ι α : Type} (stack : List String) (allowed : Fault → Prop) (report : ι → Fault → Error)
    (guarded : ι → Evaluator α) (plain : Evaluator α) : Prop :=
  ∀ state, state.inProgress = stack →
    (∃ fault next, allowed fault ∧ ∀ i, guarded i state = (.error (report i fault), next)) ∨
    ((∀ i, guarded i state = plain state) ∧ (plain state).2.inProgress = stack)

namespace Follows

variable {ι α β : Type} {stack : List String} {allowed : Fault → Prop} {report : ι → Fault → Error}

/-! ### Computations without guards -/

theorem same {m : Evaluator α} (h : ∀ state, (m state).2.inProgress = state.inProgress) :
    Follows stack allowed report (fun _ => m) m :=
  fun state hstate => .inr ⟨fun _ => rfl, (h state).trans hstate⟩

theorem ofExcept (result : Except Error α) :
    Follows stack allowed report (fun _ => Evaluator.ofExcept result) (Evaluator.ofExcept result) :=
  same fun _ => rfl

theorem pure (value : α) : Follows stack allowed report (fun _ => Pure.pure value) (Pure.pure value) :=
  same fun _ => rfl

theorem throw (error : Error) :
    Follows stack allowed report (fun _ => (MonadExcept.throw error : Evaluator α)) (MonadExcept.throw error) :=
  same fun _ => rfl

theorem onStream (f : Random.Stream → Except Error α × Random.Stream) :
    Follows stack allowed report (fun _ => Evaluator.onStream f) (Evaluator.onStream f) :=
  same fun _ => rfl

theorem get : Follows stack allowed report (fun _ => (MonadState.get : Evaluator State)) MonadState.get :=
  same fun _ => rfl

/-! ### Putting computations together -/

/-- The computation that goes on has to be followed only for values that come up. -/
theorem bind_of_ok {m : ι → Evaluator α} {plain : Evaluator α} {f : ι → α → Evaluator β} {g : α → Evaluator β}
    (hm : Follows stack allowed report m plain)
    (h : ∀ state value next, plain state = (.ok value, next) →
      Follows stack allowed report (fun i => f i value) (g value)) :
    Follows stack allowed report (fun i => m i >>= f i) (plain >>= g) := by
  intro state hstate
  rcases hm state hstate with ⟨fault, next, hfault, hstop⟩ | ⟨hsame, hstack⟩
  · exact .inl ⟨fault, next, hfault, fun i => Evaluator.bind_of_error (hstop i)⟩
  · rcases hrun : plain state with ⟨error | value, next⟩
    · rw [hrun] at hstack
      have hboth : ∀ i, (m i >>= f i) state = (plain >>= g) state := fun i => by
        rw [Evaluator.bind_of_error ((hsame i).trans hrun), Evaluator.bind_of_error hrun]
      exact .inr ⟨hboth, by rwa [Evaluator.bind_of_error hrun]⟩
    · rw [hrun] at hstack
      have hrest := h state value next hrun next hstack
      rw [← Evaluator.bind_of_ok (f := g) hrun] at hrest
      simpa only [Evaluator.bind_of_ok ((hsame _).trans hrun)] using hrest

theorem bind {m : ι → Evaluator α} {plain : Evaluator α} {f : ι → α → Evaluator β} {g : α → Evaluator β}
    (hm : Follows stack allowed report m plain)
    (h : ∀ value, Follows stack allowed report (fun i => f i value) (g value)) :
    Follows stack allowed report (fun i => m i >>= f i) (plain >>= g) :=
  bind_of_ok hm fun _ value _ _ => h value

theorem ofExcept_bind {result : Except Error α} {f : ι → α → Evaluator β} {g : α → Evaluator β}
    (h : ∀ value, result = .ok value → Follows stack allowed report (fun i => f i value) (g value)) :
    Follows stack allowed report (fun i => Evaluator.ofExcept result >>= f i) (Evaluator.ofExcept result >>= g) :=
  bind_of_ok (ofExcept result) fun _ value _ hvalue => h value (Prod.mk.inj hvalue).1

/-- The other computation may begin with a value that is known. -/
theorem bind_value {m : ι → Evaluator α} {value : α} {f : ι → α → Evaluator β} {g : Evaluator β}
    (hm : Follows stack allowed report m (Pure.pure value))
    (h : Follows stack allowed report (fun i => f i value) g) :
    Follows stack allowed report (fun i => m i >>= f i) g := by
  have hbind := hm.bind_of_ok (g := fun _ => g) fun state other next hother => by
    obtain rfl : value = other := Except.ok.inj (Prod.mk.inj hother).1
    exact h
  simpa only [pure_bind] using hbind

theorem ite {condition : Prop} [Decidable condition] {first second : ι → Evaluator α} {f g : Evaluator α}
    (hfirst : condition → Follows stack allowed report first f)
    (hsecond : ¬condition → Follows stack allowed report second g) :
    Follows stack allowed report (fun i => if condition then first i else second i)
      (if condition then f else g) := by
  by_cases h : condition
  · simpa only [if_pos h] using hfirst h
  · simpa only [if_neg h] using hsecond h

/-- Where a guard fails, the fault is one that is allowed. -/
theorem guarded_bind {condition : Prop} [Decidable condition] {fault : Fault} {f : ι → Unit → Evaluator α}
    {g : Evaluator α} (hfault : ¬condition → allowed fault)
    (h : condition → Follows stack allowed report (fun i => f i ()) g) :
    Follows stack allowed report (fun i => guarding (report i) condition fault >>= f i) g := by
  by_cases hcondition : condition
  · simpa only [guarding_bind hcondition] using h hcondition
  · intro state _
    refine .inl ⟨fault, state, hfault hcondition, fun i => Evaluator.bind_of_error ?_⟩
    rw [guarding, if_neg hcondition]
    rfl

/-- The names in progress are those of the stack again when the computation inside ends. -/
theorem during {name : String} {body : ι → Evaluator α} {plain : Evaluator α}
    (h : name ∉ stack → Follows (name :: stack) allowed report body plain) :
    Follows stack allowed report (fun i => Evaluator.during name (body i)) (Evaluator.during name plain) := by
  rintro state rfl
  by_cases hmem : name ∈ state.inProgress
  · have hcycle : ∀ computation : Evaluator α, Evaluator.during name computation state =
        (.error (.cyclicReference name), state) :=
      fun _ => if_pos hmem
    exact .inr ⟨fun i => (hcycle (body i)).trans (hcycle plain).symm, by rw [hcycle]⟩
  · have hrun : ∀ computation : Evaluator α, Evaluator.during name computation state =
        ((computation (state.enter name)).1, (computation (state.enter name)).2.leave name) :=
      fun _ => if_neg hmem
    rcases h hmem (state.enter name) rfl with ⟨fault, next, hfault, hstop⟩ | ⟨hsame, hstack⟩
    · exact .inl ⟨fault, next.leave name, hfault, fun i => (hrun (body i)).trans (by rw [hstop])⟩
    · refine .inr ⟨fun i => (hrun (body i)).trans (by rw [hrun, hsame]), ?_⟩
      rw [hrun, State.leave, hstack, List.erase_cons_head]

theorem collect {draws : ι → Evaluator String} {draw : Evaluator String}
    (h : Follows stack allowed report draws draw) (missing budget : Nat) (seen : Std.HashSet String)
    (items : List String) :
    Follows stack allowed report (fun i => Evaluation.collect (draws i) missing budget seen items)
      (Evaluation.collect draw missing budget seen items) := by
  induction missing, budget, seen, items using Evaluation.collect.induct with
  | case1 budget seen items =>
      simp only [Evaluation.collect]
      exact .pure _
  | case2 budget seen items missing ihnew ihrepeated =>
      conv => enter [4, i]; rw [Evaluation.collect]
      rw [Evaluation.collect]
      refine h.bind fun value => .ite (fun _ => ihnew value) fun _ => ?_
      specialize ihrepeated value
      cases budget with
      | zero => exact ihrepeated
      | succ budget => exact ihrepeated

/-! ### Operations with a guard -/

theorem between {low high : Int} (h : low ≤ high) :
    Follows stack allowed report (fun i => Guarded.between (report i) low high) (Evaluator.between low high) :=
  guarded_bind (absurd h) fun _ => .onStream _

theorem below {width : Nat} (h : 0 < width) :
    Follows stack allowed report (fun i => Guarded.below (report i) width) (Evaluator.below width) :=
  guarded_bind (absurd h) fun _ => .onStream _

theorem tableSize {table : Table} (h : table.fields = [] → allowed .noColumn) :
    Follows stack allowed report (fun i => Guarded.tableSize (report i) table) (Pure.pure table.size) :=
  guarded_bind (fun hnone => h (not_not.1 hnone)) fun _ => .pure _

theorem divide {dividend divisor : Int} (hzero : divisor = 0 → allowed .divisionByZero)
    (hminus : divisor = -1 → allowed .divisionOverflow) :
    Follows stack allowed report (fun i => Guarded.divide (report i) dividend divisor)
      (Pure.pure (dividend / divisor)) :=
  guarded_bind (fun h => hzero (not_not.1 h)) fun _ =>
    guarded_bind (fun h => hminus (not_not.1 h).2) fun _ => .pure _

theorem items {draws : ι → Evaluator String} {draw : Evaluator String} {count : Nat}
    (hlong : maxSigned < 64 * discardBudget count → allowed .listTooLong)
    (hdraw : count ≠ 0 → Follows stack allowed report draws draw) :
    Follows stack allowed report (fun i => Guarded.items (report i) (draws i) count)
      (collectDistinct draw count) := by
  refine guarded_bind (fun h => hlong (Nat.lt_of_not_le h)) fun _ => ?_
  cases count with
  | zero =>
      simp only [collectDistinct, Evaluation.collect]
      exact .pure _
  | succ count => exact .collect (hdraw (Nat.succ_ne_zero count)) _ _ _ _

end Follows

/-! ### Names -/

/-- The requests for a name, with guards and without. -/
structure FollowsName {ι : Type} (stack : List String) (allowed : Fault → Prop) (report : ι → Fault → Error)
    (guarded : ι → Names) (plain : Names) (name : String) : Prop where
  value : Follows stack allowed report (fun i => (guarded i).value name) (plain.value name)
  item : ∀ index, Follows stack allowed report (fun i => (guarded i).item name index) (plain.item name index)

section

theorem find?_of_substitution {scope : Scope} {name : String} {e : Expr} (h : scope.substitution name = .ok e) :
    scope.substitutions.find? name = some e := by
  unfold Scope.substitution at h
  split at h
  · rename_i found hfound
    rw [hfound, Except.ok.inj h]
  · cases h

variable {ι : Type} {scope : Scope} {stack : List String} {allowed : Fault → Prop} {report : ι → Fault → Error}
  {guarded : ι → Names} {plain : Names}

theorem follows_rowCount {relation : String}
    (hrisk : ∀ fault, Risks scope fault (.rowCount relation) → allowed fault) :
    Follows stack allowed report (fun i => Guarded.rowCount (report i) scope relation)
      (Evaluator.ofExcept (scope.rowCount relation)) := by
  unfold Guarded.rowCount Scope.rowCount
  rcases hcount : scope.rowCounts.find? relation with _ | count
  · rcases hfind : scope.registry.find? relation with _ | table
    · exact .throw _
    · exact .tableSize fun hnone => hrisk _ ⟨rfl, hcount, table, hfind, hnone⟩
  · exact .pure _

theorem follows_items {inner : Expr} {count : Nat}
    (hrisk : ∀ fault, Risks scope fault (.list inner count) → allowed fault)
    (hnames : ∀ name ∈ (Expr.list inner count).references, FollowsName stack allowed report guarded plain name)
    (hinner : (∀ fault, Risks scope fault inner → allowed fault) →
      (∀ name ∈ inner.references, FollowsName stack allowed report guarded plain name) →
      Follows stack allowed report (fun i => Guarded.evaluate (report i) scope (guarded i) inner)
        (Evaluation.evaluate scope plain inner)) :
    Follows stack allowed report
      (fun i => Guarded.items (report i) (Guarded.evaluate (report i) scope (guarded i) inner) count)
      (collectDistinct (Evaluation.evaluate scope plain inner) count) := by
  refine .items (fun hlong => hrisk _ (.inl ⟨rfl, hlong⟩)) fun hcount => ?_
  rw [Expr.references, if_neg hcount] at hnames
  exact hinner (fun fault h => hrisk fault (.inr ⟨hcount, h⟩)) hnames

/-- An evaluation is followed if its names are, and stops by itself only at a fault it risks. -/
theorem follows_evaluate {e : Expr} (hrisk : ∀ fault, Risks scope fault e → allowed fault)
    (hnames : ∀ name ∈ e.references, FollowsName stack allowed report guarded plain name) :
    Follows stack allowed report (fun i => Guarded.evaluate (report i) scope (guarded i) e)
      (Evaluation.evaluate scope plain e) := by
  induction e with
  | text value => exact .pure value
  | rowCount relation =>
      simp only [Guarded.evaluate, Evaluation.evaluate]
      exact (follows_rowCount hrisk).bind fun count => .pure _
  | format inner value ih =>
      simp only [Guarded.evaluate, Evaluation.evaluate]
      exact (ih hrisk hnames).bind fun input => .pure _
  | random start stop ihstart ihstop =>
      obtain ⟨hfirst, hsecond⟩ := List.forall_mem_append.1 hnames
      simp only [Guarded.evaluate, Evaluation.evaluate]
      refine (ihstart (fun fault h => hrisk fault (.inl h)) hfirst).bind fun startValue => ?_
      refine .bind (.ofExcept _) fun low => ?_
      refine (ihstop (fun fault h => hrisk fault (.inr h)) hsecond).bind fun stopValue => ?_
      refine .bind (.ofExcept _) fun high => .ite (fun _ => .throw _) fun hempty => ?_
      exact (Follows.between (Int.not_lt.1 hempty)).bind fun value => .pure _
  | list inner count ih =>
      simp only [Guarded.evaluate, Evaluation.evaluate]
      exact (follows_items hrisk hnames ih).bind fun items => .pure _
  | date first last kind ihfirst ihlast =>
      obtain ⟨hfirst, hsecond⟩ := List.forall_mem_append.1 hnames
      simp only [Guarded.evaluate, Evaluation.evaluate]
      refine (ihfirst (fun fault h => hrisk fault (.inl h)) hfirst).bind fun firstValue => ?_
      refine .ofExcept_bind fun low hlow => ?_
      refine (ihlast (fun fault h => hrisk fault (.inr h)) hsecond).bind fun lastValue => ?_
      refine .ofExcept_bind fun high hhigh => .ite (fun _ => .throw _) fun hempty => ?_
      have hlowValid := valid_of_readDate hlow
      have hhighValid := valid_of_readDate hhigh
      have hspan : 0 ≤ high.dayNumber - low.dayNumber := Int.not_lt.1 hempty
      refine (Follows.between hspan).bind_of_ok fun state offset next hoffset => ?_
      obtain ⟨hpos, hle⟩ :=
        bounds_of_between hspan (by decide) (Date.dayNumber_sub_le hlowValid hhighValid) hoffset
      simp only [dateOfDay_eq hlowValid hhighValid hpos hle, pure_bind]
      exact .pure _
  | divide inner divisor ih =>
      simp only [Guarded.evaluate, Evaluation.evaluate]
      refine (ih (fun fault h => hrisk fault (.inr (.inr h))) hnames).bind fun value => ?_
      refine .bind (.ofExcept _) fun dividend => ?_
      refine .bind_value (.divide (fun hzero => hrisk _ (.inl ⟨rfl, hzero⟩)) fun hminus => ?_) (.pure _)
      exact hrisk _ (.inr (.inl ⟨rfl, hminus⟩))
  | member index table field ih =>
      simp only [Guarded.evaluate, Evaluation.evaluate]
      refine (ih (fun fault h => hrisk fault (.inr h)) hnames).bind fun value => ?_
      refine .bind (.ofExcept _) fun row => ?_
      refine .bind_value (.tableSize fun hnone => hrisk _ (.inl ⟨rfl, hnone⟩)) ?_
      exact .ite (fun _ => .throw _) fun _ => .ofExcept _
  | draw table field column =>
      simp only [Guarded.evaluate, Evaluation.evaluate, drawValue_eq]
      exact .onStream _
  | reference name => exact (hnames name (List.mem_singleton_self name)).value
  | item name index => exact (hnames name (List.mem_singleton_self name)).item index
  | choice options =>
      simp only [Guarded.evaluate, Evaluation.evaluate]
      refine .ite (fun _ => .throw _) fun _ => .ite (fun _ => .throw _) fun hpos => ?_
      have hwidth := Nat.pos_of_ne_zero hpos
      refine (Follows.below hwidth).bind_of_ok fun state draw next hdraw => ?_
      obtain ⟨text, htext⟩ := exists_pickOption (lt_of_below hwidth hdraw)
      simp only [choose, htext]
      exact .pure _
  | append left right ihleft ihright =>
      obtain ⟨hleft, hright⟩ := List.forall_mem_append.1 hnames
      simp only [Guarded.evaluate, Evaluation.evaluate]
      refine (ihleft (fun fault h => hrisk fault (.inl h)) hleft).bind fun leftValue => ?_
      exact (ihright (fun fault h => hrisk fault (.inr h)) hright).bind fun rightValue => .pure _

theorem follows_compute {e : Expr} (hrisk : ∀ fault, Risks scope fault e → allowed fault)
    (hnames : ∀ name ∈ e.references, FollowsName stack allowed report guarded plain name) :
    Follows stack allowed report (fun i => Guarded.compute (report i) scope (guarded i) e)
      (Evaluation.compute scope plain e) := by
  cases e with
  | list inner count =>
      simp only [Guarded.compute, Evaluation.compute]
      exact (follows_items hrisk hnames follows_evaluate).bind fun items => .pure _
  | _ =>
      simp only [Guarded.compute, Evaluation.compute]
      exact (follows_evaluate hrisk hnames).bind fun text => .pure _

theorem follows_computeAndStore {name : String} {e : Expr}
    (h : name ∉ stack → Follows (name :: stack) allowed report
      (fun i => Guarded.compute (report i) scope (guarded i) e) (Evaluation.compute scope plain e)) :
    Follows stack allowed report (fun i => Guarded.computeAndStore (report i) scope (guarded i) name e)
      (Evaluation.computeAndStore scope plain name e) :=
  (Follows.during h).bind fun value => .bind (.same fun _ => rfl) fun _ => .pure value

/-- A request for a name is followed if the evaluation of its substitution is, with the name in progress. -/
theorem follows_request {name : String}
    (h : ∀ e, scope.substitutions.find? name = some e → name ∉ stack → Follows (name :: stack) allowed report
      (fun i => Guarded.compute (report i) scope (guarded i) e) (Evaluation.compute scope plain e)) :
    FollowsName stack allowed report
      (fun i => ⟨Guarded.resolveValue (report i) scope (guarded i), Guarded.resolveItem (report i) scope (guarded i)⟩)
      ⟨Evaluation.resolveValue scope plain, Evaluation.resolveItem scope plain⟩ name := by
  have hstore : ∀ e, scope.substitution name = .ok e → Follows stack allowed report
      (fun i => Guarded.computeAndStore (report i) scope (guarded i) name e)
      (Evaluation.computeAndStore scope plain name e) := fun e he =>
    follows_computeAndStore (h e (find?_of_substitution he))
  constructor
  · refine .bind .get fun state => ?_
    cases state.cache[name]? with
    | some value => exact .pure _
    | none => exact .ofExcept_bind fun e he => (hstore e he).bind fun value => .pure _
  · intro index
    refine .bind .get fun state => ?_
    cases state.cache[name]? with
    | some value => exact .ofExcept _
    | none =>
        refine .ofExcept_bind fun e he => ?_
        cases e with
        | list inner count => exact (hstore _ he).bind fun value => .ofExcept _
        | _ => exact .throw _

/-- The names of a scope, with guards and without. Each depth of nesting is the same or, as long as there is room,
need not be, for then neither is used up. -/
theorem follows_namesWithin {origin : State} {depth : Nat} {depthOf : ι → Nat} {name : String}
    (hdepth : ∀ i, depthOf i = depth ∨ origin.Room scope depth ∧ origin.Room scope (depthOf i))
    (hrisk : ∀ fault, scope.Risks name fault → allowed fault) :
    FollowsName origin.inProgress allowed report (fun i => Guarded.namesWithin (report i) scope (depthOf i))
      (Evaluation.namesWithin scope depth) name := by
  induction depth generalizing origin depthOf name with
  | zero =>
      obtain rfl : depthOf = fun _ => 0 := by
        funext i
        rcases hdepth i with hsame | ⟨hroom, -⟩
        · exact hsame
        · exact absurd hroom.depth_pos (Nat.lt_irrefl 0)
      exact ⟨.throw _, fun _ => .throw _⟩
  | succ depth ih =>
      have hpos : ∀ i, 0 < depthOf i := fun i => by
        rcases hdepth i with hsame | ⟨-, hroom⟩
        · exact hsame ▸ Nat.succ_pos depth
        · exact hroom.depth_pos
      obtain ⟨inner, hinner⟩ : ∃ inner : ι → Nat, ∀ i, depthOf i = inner i + 1 :=
        ⟨fun i => depthOf i - 1, fun i => (Nat.sub_add_cancel (hpos i)).symm⟩
      obtain rfl := funext hinner
      refine follows_request fun e hfind hfree =>
        follows_compute (fun fault h => hrisk fault ⟨name, e, .refl, hfind, h⟩) ?_
      intro asked hasked
      have hrefers : scope.Refers name asked := ⟨e, hfind, hasked⟩
      -- The name takes up one level of each depth, and one of the names that were free.
      change FollowsName (origin.enter name).inProgress _ _ _ _ _
      refine ih (fun i => ?_) fun fault h => ?_
      · rcases hdepth i with hsame | ⟨hroom, hother⟩
        · exact .inl (Nat.succ.inj hsame)
        · exact .inr ⟨hroom.enter hfree hfind, hother.enter hfree hfind⟩
      · obtain ⟨last, e', hreach, hlast⟩ := h
        exact hrisk fault ⟨last, e', .head hrefers hreach, hlast⟩

end

/-! ### Sound expressions -/

section

variable {scope : Scope}

theorem not_risks_of_sound {fault : Fault} {e : Expr} (hregistry : scope.registry.Parsed)
    (hsound : ∀ node ∈ e.nodes, node.Sound) : ¬Risks scope fault e := by
  induction e with
  | rowCount relation =>
      rintro ⟨-, -, table, hfind, hnone⟩
      exact (hregistry.wellFormed hfind).fields_ne_nil hnone
  | format inner value ih => exact ih (List.forall_mem_cons.1 hsound).2
  | list inner count ih =>
      obtain ⟨hnode, hoperand⟩ := List.forall_mem_cons.1 hsound
      have hcount : count ≤ maxListCount := hnode
      rintro (⟨-, hlong⟩ | ⟨-, h⟩)
      · unfold discardBudget maxListCount maxSigned at *
        omega
      · exact ih hoperand h
  | random first second ihfirst ihsecond | date first second kind ihfirst ihsecond
  | append first second ihfirst ihsecond =>
      obtain ⟨hfirst, hsecond⟩ := List.forall_mem_append.1 (List.forall_mem_cons.1 hsound).2
      exact not_or.2 ⟨ihfirst hfirst, ihsecond hsecond⟩
  | divide inner divisor ih =>
      obtain ⟨hnode, hoperand⟩ := List.forall_mem_cons.1 hsound
      have hdivisor : 1 < divisor := hnode.1
      rintro (⟨-, rfl⟩ | ⟨-, rfl⟩ | h)
      · omega
      · omega
      · exact ih hoperand h
  | member index table field ih =>
      obtain ⟨hnode, hoperand⟩ := List.forall_mem_cons.1 hsound
      rintro (⟨-, hnone⟩ | h)
      · exact hnode.1.fields_ne_nil hnone
      · exact ih hoperand h
  | text | draw | reference | item | choice => exact id

theorem not_risks_of_wellMade (hscope : scope.WellMade) (hregistry : scope.registry.Parsed) (name : String)
    (fault : Fault) : ¬scope.Risks name fault := by
  rintro ⟨other, e, -, hfind, hrisks⟩
  cases hscope other e hfind with
  | read hsound => exact not_risks_of_sound hregistry hsound hrisks
  | item => exact hrisks

/-- Where no fault can be met, the evaluation with guards is the evaluation. -/
theorem resolve_eq {report : Fault → Error} (hregistry : scope.registry.Parsed) (hscope : scope.WellMade)
    (name : String) : resolve report scope name = scope.resolve name := by
  funext state
  have hnames : FollowsName state.inProgress (fun _ => False) (fun _ : Unit => report)
      (fun _ => namesWithin report scope (scope.substitutions.size + 1)) scope.names name :=
    follows_namesWithin (fun _ => .inl rfl) fun fault => not_risks_of_wellMade hscope hregistry name fault
  rcases hnames.value state rfl with ⟨_, _, hfalse, -⟩ | ⟨hsame, -⟩
  · exact hfalse.elim
  · exact hsame ()

end

end Guarded

end QueryVariants.Evaluation
