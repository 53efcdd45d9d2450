/-!
# Weights

The weights of a list share out the numbers from one to their total: running sums give the last number
of each place, so a place of weight zero gets none.
-/

namespace QueryVariants.Weights

def total : List Nat → Nat
  | [] => 0
  | weight :: rest => weight + total rest

/-- The sums of all beginnings of a list, added to `start`. -/
def runningSums (start : Nat) : List Nat → List Nat
  | [] => []
  | weight :: rest => (start + weight) :: runningSums (start + weight) rest

theorem length_runningSums (start : Nat) (weights : List Nat) :
    (runningSums start weights).length = weights.length := by
  induction weights generalizing start with
  | nil => rfl
  | cons weight rest ih => simp [runningSums, ih]

end QueryVariants.Weights
