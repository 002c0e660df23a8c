import CallForest.Graph.Store

/-!
# Walking a call graph to a bounded depth

A call tree is unfolded from an origin. A node at depth `d` is always shown, and its callees are
unfolded only while `d` does not exceed the bound, so the tree reaches one level below the bound.
Cycles are cut by the bound alone.

`walkFrom` keeps the nodes still to be visited as a list; it ends because the size of the trees that
hang from them shrinks.
-/

namespace CallForest

/-- A visited node of a call tree, and how deep below the origin it stands. -/
structure TreeLine where
  depth : Nat
  name : String
  path : String
  deriving DecidableEq, Repr

namespace TreeLine

/-- The line of a node. -/
def ofNode (n : Node) (depth : Nat) : TreeLine := ⟨depth, n.name, n.path⟩

/-- The node of a line. -/
def node (l : TreeLine) : Node := ⟨l.path, l.name⟩

/-- A line as it is shown: a tab for each level, then the node. -/
def text (l : TreeLine) : String :=
  String.ofList (List.replicate l.depth '\t') ++ l.node.label

end TreeLine

/-- Where a call tree starts, and the depth to which nodes are unfolded. -/
structure Origin where
  node : Node
  depthBound : Nat
  deriving DecidableEq, Repr

/-- Looks the origin up by its function's name. -/
def Origin.resolve? {σ : Type} [GraphStore σ] (store : σ) (name : String) (depthBound : Nat) :
    Option Origin :=
  (resolveNode store name).map fun node => ⟨node, depthBound⟩

namespace Walk

/-- The sum of a measure over a list. -/
def total {α : Type} (measure : α → Nat) : List α → Nat
  | [] => 0
  | x :: xs => measure x + total measure xs

theorem total_append {α : Type} (measure : α → Nat) (xs ys : List α) :
    total measure (xs ++ ys) = total measure xs + total measure ys := by
  induction xs with
  | nil => simp [total]
  | cons x xs ih => simp only [List.cons_append, total, ih, Nat.add_assoc]

theorem total_map {α β : Type} (measure : β → Nat) (f : α → β) (xs : List α) :
    total measure (xs.map f) = total (fun x => measure (f x)) xs := by
  induction xs with
  | nil => rfl
  | cons x xs ih => simp only [List.map_cons, total, ih]

/-- How many lines the tree below a node has, `levels` levels of it being unfolded. -/
def size (children : Node → List Node) : Nat → Node → Nat
  | 0, _ => 1
  | levels + 1, n => 1 + total (size children levels) (children n)

/-- How many levels are still unfolded below a node at that depth. -/
def levelsLeft (bound depth : Nat) : Nat := bound + 1 - depth

/-- How many lines the trees below the waiting nodes have together. -/
def frontierSize (children : Node → List Node) (bound : Nat) (frontier : List (Node × Nat)) : Nat :=
  total (fun w => size children (levelsLeft bound w.2) w.1) frontier

/-- The callees of a node at that depth that are to be visited next. -/
def unfold (children : Node → List Node) (bound : Nat) (n : Node) (depth : Nat) :
    List (Node × Nat) :=
  if depth ≤ bound then (children n).map fun c => (c, depth + 1) else []

theorem frontierSize_append (children : Node → List Node) (bound : Nat)
    (xs ys : List (Node × Nat)) :
    frontierSize children bound (xs ++ ys) =
      frontierSize children bound xs + frontierSize children bound ys :=
  total_append _ xs ys

/-- A visited node counts one, and its callees the rest of its tree. -/
theorem frontierSize_unfold (children : Node → List Node) (bound : Nat) (n : Node) (depth : Nat) :
    size children (levelsLeft bound depth) n =
      1 + frontierSize children bound (unfold children bound n depth) := by
  unfold unfold levelsLeft frontierSize
  split
  · next h =>
    have : bound + 1 - depth = (bound + 1 - (depth + 1)) + 1 := by omega
    rw [this, size, total_map]
    rfl
  · next h =>
    have : bound + 1 - depth = 0 := by omega
    rw [this, size]
    rfl

/-- Visits the waiting nodes, each followed by the tree below it. -/
def walkFrom (children : Node → List Node) (bound : Nat) : List (Node × Nat) → List TreeLine
  | [] => []
  | (n, depth) :: waiting =>
    .ofNode n depth :: walkFrom children bound (unfold children bound n depth ++ waiting)
termination_by frontier => frontierSize children bound frontier
decreasing_by
  rw [frontierSize_append]
  have h := frontierSize_unfold children bound n depth
  simp only [frontierSize, total] at h ⊢
  omega

end Walk

/-- The call tree of an origin, each node before its callees. -/
def walk {σ : Type} [GraphStore σ] (store : σ) (origin : Origin) : List TreeLine :=
  Walk.walkFrom (fun n => GraphStore.children n store) origin.depthBound [(origin.node, 0)]

end CallForest
