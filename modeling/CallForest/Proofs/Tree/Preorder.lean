import CallForest.Graph.Ledger
import CallForest.Tree.Walk
import Mathlib.Data.List.Basic
import Mathlib.Logic.Function.Iterate

/-!
# A walk is a tree in pre-order

A walk is a loop over a frontier: a round takes the first waiting node, shows it, and puts its
callees in front, the last of them first, unless the node is too deep. The loop ends, whatever
cycles there are, and what it has shown is the origin's tree in pre-order (`walk_eq_preorder`): a
node, then the trees of its callees in their order, one level deeper, as long as the bound allows.

The frontier is a list of trees that are still to be shown (`walkFrom_eq_flatMap`); this is what a
round preserves. It shows one line, so the lines of these trees count the rounds that are left.

A lower bound leaves out the lines below it, and nothing else (`walk_eq_filter`).
-/

namespace CallForest

namespace Walk

variable (children : Node → List Node) (bound : Nat)

/-- The tree of a node that stands at a depth, in pre-order. -/
def preorder (n : Node) (depth : Nat) : List TreeLine :=
  .ofNode n depth ::
    if depth ≤ bound then (children n).flatMap fun c => preorder c (depth + 1) else []
termination_by bound + 1 - depth

/-! ## The loop -/

/-- The loop between two rounds: the lines shown so far, and the nodes still to be visited. -/
structure Loop where
  lines : List TreeLine
  frontier : List (Node × Nat)
  deriving DecidableEq, Repr

/-- Puts nodes in front of a frontier, one by one, the last of them first. -/
def pushFront (depth : Nat) (ns : List Node) (frontier : List (Node × Nat)) : List (Node × Nat) :=
  ns.reverse.foldl (fun waiting n => (n, depth) :: waiting) frontier

/-- A round: the first waiting node is shown, and its callees are put in front. -/
def Loop.round (s : Loop) : Loop :=
  match s.frontier with
  | [] => s
  | (n, depth) :: waiting =>
    ⟨s.lines ++ [.ofNode n depth],
      if depth ≤ bound then pushFront (depth + 1) (children n) waiting else waiting⟩

/-- The loop ends after so many rounds, and not before, with these lines. -/
structure Loop.EndsAfter (start : Loop) (rounds : Nat) (lines : List TreeLine) : Prop where
  last : (Loop.round children bound)^[rounds] start = ⟨lines, []⟩
  goes : ∀ k < rounds, ((Loop.round children bound)^[k] start).frontier ≠ []

/-- Put in front the last first, nodes stand there in their order. -/
theorem pushFront_eq (depth : Nat) (ns : List Node) (frontier : List (Node × Nat)) :
    pushFront depth ns frontier = ns.map (fun n => (n, depth)) ++ frontier := by
  rw [pushFront, List.foldl_reverse]
  induction ns with
  | nil => rfl
  | cons n ns ih => rw [List.foldr_cons, ih, List.map_cons, List.cons_append]

theorem round_cons (lines : List TreeLine) (n : Node) (depth : Nat)
    (waiting : List (Node × Nat)) :
    Loop.round children bound ⟨lines, (n, depth) :: waiting⟩ =
      ⟨lines ++ [.ofNode n depth], unfold children bound n depth ++ waiting⟩ := by
  rw [Loop.round, unfold]
  dsimp only
  split
  · rw [pushFront_eq]
  · rfl

/-- **The loop ends**, from every frontier: it goes on for one round for each line. -/
theorem endsAfter_walkFrom (frontier : List (Node × Nat)) (lines : List TreeLine) :
    Loop.EndsAfter children bound ⟨lines, frontier⟩ (walkFrom children bound frontier).length
      (lines ++ walkFrom children bound frontier) := by
  induction frontier using walkFrom.induct children bound generalizing lines with
  | case1 =>
      rw [walkFrom, List.append_nil]
      exact ⟨rfl, nofun⟩
  | case2 n depth waiting ih =>
      obtain ⟨hlast, hgoes⟩ := ih (lines ++ [.ofNode n depth])
      rw [← round_cons] at hlast hgoes
      rw [walkFrom, List.length_cons]
      constructor
      · rw [Function.iterate_succ_apply, hlast, List.append_assoc, List.singleton_append]
      · intro k hk
        cases k with
        | zero => exact List.cons_ne_nil _ _
        | succ k =>
            rw [Function.iterate_succ_apply]
            exact hgoes k (Nat.lt_of_succ_lt_succ hk)

/-! ## The trees of a frontier -/

/-- What waits is shown tree by tree. -/
theorem walkFrom_eq_flatMap (frontier : List (Node × Nat)) :
    walkFrom children bound frontier =
      frontier.flatMap fun w => preorder children bound w.1 w.2 := by
  induction frontier using walkFrom.induct children bound with
  | case1 => rw [walkFrom, List.flatMap_nil]
  | case2 n depth waiting ih =>
      have htree : preorder children bound n depth = .ofNode n depth ::
          (unfold children bound n depth).flatMap fun w => preorder children bound w.1 w.2 := by
        rw [preorder, unfold]
        split
        · rw [List.flatMap_map]
        · rfl
      rw [walkFrom, ih, List.flatMap_append, List.flatMap_cons, htree, List.cons_append]

theorem walk_eq {σ : Type} [GraphStore σ] (store : σ) (origin : Origin) :
    walk store origin =
      preorder (fun n => GraphStore.children n store) origin.depthBound origin.node 0 := by
  rw [walk, walkFrom_eq_flatMap, List.flatMap_singleton]

/-- **A walk is the tree of its origin in pre-order**, and its loop ends with these lines, after one
round for each. -/
theorem walk_eq_preorder {σ : Type} [GraphStore σ] (store : σ) (origin : Origin) :
    walk store origin =
        preorder (fun n => GraphStore.children n store) origin.depthBound origin.node 0 ∧
      Loop.EndsAfter (fun n => GraphStore.children n store) origin.depthBound
        ⟨[], [(origin.node, 0)]⟩ (walk store origin).length (walk store origin) :=
  ⟨walk_eq store origin, endsAfter_walkFrom _ _ [(origin.node, 0)] []⟩

/-! ## Depths -/

variable {children bound}

theorem le_depth_of_mem_preorder {n : Node} {depth : Nat} {line : TreeLine}
    (h : line ∈ preorder children bound n depth) : depth ≤ line.depth := by
  induction n, depth using preorder.induct bound with
  | case1 n depth ih =>
      rw [preorder] at h
      rcases List.mem_cons.mp h with rfl | h
      · exact Nat.le_refl _
      · split at h
        · next hle =>
          obtain ⟨c, -, hline⟩ := List.mem_flatMap.mp h
          exact Nat.le_of_succ_le (ih hle c hline)
        · cases h

/-- No line is more than one level below the bound. -/
theorem depth_le_of_mem_preorder {n : Node} {depth : Nat} {line : TreeLine}
    (hdepth : depth ≤ bound + 1) (h : line ∈ preorder children bound n depth) :
    line.depth ≤ bound + 1 := by
  induction n, depth using preorder.induct bound with
  | case1 n depth ih =>
      rw [preorder] at h
      rcases List.mem_cons.mp h with rfl | h
      · exact hdepth
      · split at h
        · next hle =>
          obtain ⟨c, -, hline⟩ := List.mem_flatMap.mp h
          exact ih hle c (Nat.succ_le_succ hle) hline
        · cases h

/-! ## A lower bound -/

/-- Nothing is left of a tree that stands below a limit. -/
theorem filter_preorder_eq_nil {limit depth : Nat} (n : Node) (h : limit < depth) :
    (preorder children bound n depth).filter (fun line => line.depth ≤ limit) = [] := by
  rw [List.filter_eq_nil_iff]
  intro line hline hle
  have hdepth := le_depth_of_mem_preorder hline
  rw [decide_eq_true_iff] at hle
  omega

/-- The lines of a tree that a lower bound leaves. -/
theorem filter_preorder {higher : Nat} (h : bound ≤ higher) {n : Node} {depth : Nat}
    (hdepth : depth ≤ bound + 1) :
    (preorder children higher n depth).filter (fun line => line.depth ≤ bound + 1) =
      preorder children bound n depth := by
  induction n, depth using preorder.induct higher with
  | case1 n depth ih =>
      have hshown : decide ((TreeLine.ofNode n depth).depth ≤ bound + 1) = true :=
        decide_eq_true hdepth
      rw [preorder, preorder, List.filter_cons, if_pos hshown]
      congr 1
      by_cases hle : depth ≤ bound
      · have hhigher := Nat.le_trans hle h
        rw [if_pos hhigher, if_pos hle, List.filter_flatMap]
        exact List.flatMap_congr fun c _ => ih hhigher c (Nat.succ_le_succ hle)
      · -- the node stands on the last level shown, so all of what is below it goes
        rw [if_neg hle]
        split
        · rw [List.filter_flatMap, List.flatMap_eq_nil_iff]
          exact fun c _ => filter_preorder_eq_nil c (by omega)
        · rfl

/-- **A lower bound leaves out the lines below it, and nothing else.** -/
theorem walk_eq_filter {σ : Type} [GraphStore σ] (store : σ) (n : Node) {bound higher : Nat}
    (h : bound ≤ higher) :
    walk store ⟨n, bound⟩ =
      (walk store ⟨n, higher⟩).filter fun line => line.depth ≤ bound + 1 := by
  rw [walk_eq, walk_eq]
  exact (filter_preorder h (Nat.zero_le _)).symm

/-- A function that calls itself, and then another that calls it. -/
def recursion : Ledger :=
  recordEdges [⟨.unresolved "a", .unresolved "a"⟩, ⟨.unresolved "a", .unresolved "b"⟩,
    ⟨.unresolved "b", .unresolved "a"⟩] .empty

theorem walk_recursion :
    0 ≤ 1 ∧ (walk recursion ⟨.unresolved "a", 1⟩).map (fun line => (line.depth, line.name)) =
        [(0, "a"), (1, "a"), (2, "a"), (2, "b"), (1, "b"), (2, "a")] ∧
      walk recursion ⟨.unresolved "a", 0⟩ =
        (walk recursion ⟨.unresolved "a", 1⟩).filter fun line => line.depth ≤ 0 + 1 :=
  ⟨by decide, by decide +kernel, walk_eq_filter recursion _ (by decide)⟩

end Walk

end CallForest
