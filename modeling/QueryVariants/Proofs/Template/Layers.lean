import QueryVariants.Template.Source

/-!
# Layers of templates

Layers are asked in order, and layers within layers in their place, so a nest of layers answers like the list of
its leaves: the first leaf that has the text or fails decides.
-/

namespace QueryVariants.TemplateSource

mutual

/-- The sources without layers that a source is made of, in the order in which they are asked. -/
def leaves : TemplateSource → List TemplateSource
  | bundled => [bundled]
  | memory templates => [memory templates]
  | directory path => [directory path]
  | layers sources => leavesOfAll sources

def leavesOfAll : List TemplateSource → List TemplateSource
  | [] => []
  | source :: sources => source.leaves ++ leavesOfAll sources

end

/-- An answer is a text or a failure, and not that there is no text. -/
def decides : Except Error (Option String) → Bool
  | .ok none => false
  | _ => true

def firstDeciding (answers : List (Except Error (Option String))) : Except Error (Option String) :=
  (answers.find? decides).getD (.ok none)

/-- What the first leaf says that has the text or fails. -/
def firstAnswer (tree : FileTree) (source : TemplateSource) (id : Nat) : Except Error (Option String) :=
  firstDeciding (source.leaves.map fun leaf => leaf.load tree id)

/-! ### The first answer that decides -/

theorem firstDeciding_singleton (answer : Except Error (Option String)) : firstDeciding [answer] = answer := by
  rcases answer with failure | _ | text <;> rfl

theorem firstDeciding_append (answers more : List (Except Error (Option String))) :
    firstDeciding (answers ++ more) =
      if decides (firstDeciding answers) then firstDeciding answers else firstDeciding more := by
  rw [firstDeciding, List.find?_append]
  cases hfound : answers.find? decides with
  | none =>
      rw [firstDeciding, hfound]
      rfl
  | some answer =>
      have hdecides : decides answer = true := List.find?_some hfound
      have hfirst : firstDeciding answers = answer := by
        rw [firstDeciding, hfound]
        rfl
      rw [hfirst, if_pos hdecides]
      rfl

theorem loadFirst_cons (tree : FileTree) (source : TemplateSource) (sources : List TemplateSource) (id : Nat) :
    loadFirst tree (source :: sources) id =
      if decides (source.load tree id) then source.load tree id else loadFirst tree sources id := by
  rw [loadFirst]
  rcases source.load tree id with failure | _ | text <;> rfl

/-! ### Nested layers -/

mutual

/-- A source answers like the first of its leaves that has the text or fails. -/
theorem load_eq_firstAnswer (tree : FileTree) (id : Nat) :
    ∀ source : TemplateSource, source.load tree id = source.firstAnswer tree id
  | bundled => (firstDeciding_singleton _).symm
  | memory _ => (firstDeciding_singleton _).symm
  | directory _ => (firstDeciding_singleton _).symm
  | layers sources => by
      rw [load, firstAnswer, leaves]
      exact loadFirst_eq_firstDeciding tree id sources

theorem loadFirst_eq_firstDeciding (tree : FileTree) (id : Nat) :
    ∀ sources : List TemplateSource,
      loadFirst tree sources id = firstDeciding ((leavesOfAll sources).map fun leaf => leaf.load tree id)
  | [] => rfl
  | source :: sources => by
      rw [loadFirst_cons, leavesOfAll, List.map_append, firstDeciding_append,
        loadFirst_eq_firstDeciding tree id sources, load_eq_firstAnswer tree id source, firstAnswer]

end

mutual

/-- A leaf has no leaf but itself. -/
theorem leaves_of_mem_leaves {leaf : TemplateSource} :
    ∀ source : TemplateSource, leaf ∈ source.leaves → leaf.leaves = [leaf]
  | bundled, h => by
      obtain rfl := List.mem_singleton.1 h
      rfl
  | memory _, h => by
      obtain rfl := List.mem_singleton.1 h
      rfl
  | directory _, h => by
      obtain rfl := List.mem_singleton.1 h
      rfl
  | layers sources, h => leaves_of_mem_leavesOfAll sources h

theorem leaves_of_mem_leavesOfAll {leaf : TemplateSource} :
    ∀ sources : List TemplateSource, leaf ∈ leavesOfAll sources → leaf.leaves = [leaf]
  | [], h => nomatch h
  | source :: sources, h => by
      rcases List.mem_append.1 h with hsource | hsources
      · exact leaves_of_mem_leaves source hsource
      · exact leaves_of_mem_leavesOfAll sources hsources

end

theorem leavesOfAll_of_leaves {sources : List TemplateSource} (h : ∀ source ∈ sources, source.leaves = [source]) :
    leavesOfAll sources = sources := by
  induction sources with
  | nil => rfl
  | cons source sources ih =>
      obtain ⟨hsource, hsources⟩ := List.forall_mem_cons.1 h
      rw [leavesOfAll, hsource, ih hsources]
      rfl

/-- The leaves of a nest of layers, put into one list of layers, are the leaves of that list. -/
theorem leaves_layers_leaves (source : TemplateSource) : (layers source.leaves).leaves = source.leaves := by
  rw [leaves]
  exact leavesOfAll_of_leaves fun _ hleaf => leaves_of_mem_leaves source hleaf

theorem load_layers_leaves (tree : FileTree) (source : TemplateSource) :
    (layers source.leaves).load tree = source.load tree := by
  funext id
  rw [load_eq_firstAnswer, load_eq_firstAnswer, firstAnswer, leaves_layers_leaves, firstAnswer]

theorem exists_leaf_of_firstAnswer {tree : FileTree} {source : TemplateSource} {id : Nat} {text : String}
    (h : source.firstAnswer tree id = .ok (some text)) :
    ∃ leaf ∈ source.leaves, leaf.load tree id = .ok (some text) := by
  rw [firstAnswer, firstDeciding] at h
  cases hfound : (source.leaves.map fun leaf => leaf.load tree id).find? decides with
  | none =>
      rw [hfound] at h
      cases h
  | some answer =>
      rw [hfound] at h
      obtain ⟨leaf, hleaf, hload⟩ := List.mem_map.1 (List.mem_of_find?_eq_some hfound)
      exact ⟨leaf, hleaf, hload.trans h⟩

/-- Where a leaf has a text, the first answer is a text or a failure. -/
theorem decides_firstAnswer_of_leaf {tree : FileTree} {source leaf : TemplateSource} {id : Nat} {text : String}
    (hleaf : leaf ∈ source.leaves) (h : leaf.load tree id = .ok (some text)) :
    decides (source.firstAnswer tree id) = true := by
  rw [firstAnswer, firstDeciding]
  cases hfound : (source.leaves.map fun leaf => leaf.load tree id).find? decides with
  | none =>
      have hnone := List.find?_eq_none.1 hfound _ (List.mem_map_of_mem hleaf)
      rw [h] at hnone
      exact absurd rfl hnone
  | some answer => exact List.find?_some hfound

end QueryVariants.TemplateSource
