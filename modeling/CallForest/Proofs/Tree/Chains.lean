import CallForest.Proofs.Graph.Calls
import CallForest.Proofs.Tree.Preorder
import Mathlib.Data.List.Chain
import Mathlib.Data.List.Forall2
import Mathlib.Data.List.Induction

/-!
# The call chains that a walk shows

A line of a walk says how deep its node stands, but not by which calls it was reached. These are
read off the lines that enclose it: of each smaller depth the nearest line above (`enclosing`). So
every line stands for a chain of calls from the origin to its node, and the chains of a walk are all
those that the bound allows, each once, in the order of their calls (`walk_showsChains`).

The chains are listed level by level (`chainsOf`), and a tree shows this list
(`callChains_preorder`). What the proof carries through a tree is that the lines above it show the
path to its root (`Shows`), which the lines of a tree further in do not disturb (`Shows.append`).
-/

namespace CallForest

namespace Walk

/-! ## Chains of calls -/

/-- Every node of a chain but the first is a callee of the node in front of it. -/
def IsCallChain (children : Node → List Node) (chain : List Node) : Prop :=
  chain.IsChain fun n c => c ∈ children n

/-- A node is reached from an origin by so many calls. -/
inductive Reaches (calls : Node → List Node) (origin : Node) : Nat → Node → Prop where
  | start : Reaches calls origin 0 origin
  | call {count : Nat} {n c : Node} (h : Reaches calls origin count n) (hcall : c ∈ calls n) :
    Reaches calls origin (count + 1) c

/-- Where the calls of a chain stand among the callees of their callers. -/
def positions (children : Node → List Node) : List Node → List Nat
  | n :: c :: chain => (children n).idxOf c :: positions children (c :: chain)
  | [_] | [] => []

/-- The lines around a line, the outermost first, and the line itself: of each smaller depth the
nearest of the lines above, which are given from the line upwards. -/
def enclosing (above : List TreeLine) (line : TreeLine) : List TreeLine :=
  ((List.range line.depth).filterMap fun depth => above.find? fun l => l.depth = depth) ++ [line]

/-- The chains that lines below others stand for. -/
def chainsBelow (above : List TreeLine) : List TreeLine → List (List Node)
  | [] => []
  | line :: lines => (enclosing above line).map TreeLine.node :: chainsBelow (line :: above) lines

/-- The chains that lines stand for, line by line. -/
def callChains (lines : List TreeLine) : List (List Node) :=
  chainsBelow [] lines

/-- What lines show of the calls that lead away from an origin. The callees of a node are
`children`, each once, and `calls`, as they were recorded. -/
structure ShowsChains (children calls : Node → List Node) (origin : Node) (bound : Nat)
    (lines : List TreeLine) : Prop where
  /-- A line stands for a chain of as many calls as it is deep, which ends in its node. -/
  line_chain : List.Forall₂
    (fun line chain => chain.length = line.depth + 1 ∧ chain.getLast? = some line.node) lines
    (callChains lines)
  /-- The chains are those from the origin with at most one call more than the bound. -/
  mem_iff : ∀ chain, chain ∈ callChains lines ↔
    chain.head? = some origin ∧ IsCallChain children chain ∧ chain.length ≤ bound + 2
  nodup : (callChains lines).Nodup
  /-- They come in lexicographic order, each before those that go on from it. -/
  ordered : (callChains lines).Pairwise fun one other =>
    positions children one < positions children other
  depth_le : ∀ line ∈ lines, line.depth ≤ bound + 1
  /-- Those nodes are shown that so many recorded calls lead to. -/
  mem_node_iff : ∀ n, n ∈ lines.map TreeLine.node ↔
    ∃ count ≤ bound + 1, Reaches calls origin count n

section Chains

variable (children : Node → List Node)

/-- The chains of at most so many calls from a node. -/
def chainsOf : Nat → Node → List (List Node)
  | 0, n => [[n]]
  | levels + 1, n =>
    [n] :: (children n).flatMap fun c => (chainsOf levels c).map fun chain => n :: chain

variable {children}

theorem head?_of_mem_chainsOf {levels : Nat} {n : Node} {chain : List Node}
    (h : chain ∈ chainsOf children levels n) : chain.head? = some n := by
  cases levels with
  | zero => rw [List.mem_singleton.mp h, List.head?_cons]
  | succ levels =>
      rcases List.mem_cons.mp h with rfl | h
      · rfl
      · obtain ⟨c, -, hc⟩ := List.mem_flatMap.mp h
        obtain ⟨rest, -, rfl⟩ := List.mem_map.mp hc
        rfl

theorem mem_chainsOf {levels : Nat} {n : Node} {chain : List Node} :
    chain ∈ chainsOf children levels n ↔
      chain.head? = some n ∧ IsCallChain children chain ∧ chain.length ≤ levels + 1 := by
  induction levels generalizing n chain with
  | zero =>
      rw [chainsOf, List.mem_singleton]
      constructor
      · rintro rfl
        exact ⟨rfl, List.isChain_singleton n, Nat.le_refl _⟩
      · rintro ⟨hhead, -, hlength⟩
        obtain ⟨rest, rfl⟩ := List.head?_eq_some_iff.mp hhead
        rw [List.length_cons] at hlength
        rw [List.length_eq_zero_iff.mp (Nat.le_zero.mp (Nat.le_of_succ_le_succ hlength))]
  | succ levels ih =>
      rw [chainsOf, List.mem_cons, List.mem_flatMap]
      constructor
      · rintro (rfl | ⟨c, hc, h⟩)
        · exact ⟨rfl, List.isChain_singleton n, Nat.succ_le_succ (Nat.zero_le _)⟩
        · obtain ⟨rest, hrest, rfl⟩ := List.mem_map.mp h
          obtain ⟨hhead, hchain, hlength⟩ := ih.mp hrest
          obtain ⟨rest, rfl⟩ := List.head?_eq_some_iff.mp hhead
          exact ⟨rfl, List.isChain_cons_cons.mpr ⟨hc, hchain⟩, Nat.succ_le_succ hlength⟩
      · rintro ⟨hhead, hchain, hlength⟩
        obtain ⟨rest, rfl⟩ := List.head?_eq_some_iff.mp hhead
        cases rest with
        | nil => exact .inl rfl
        | cons c rest =>
            obtain ⟨hc, hchain⟩ := List.isChain_cons_cons.mp hchain
            exact .inr ⟨c, hc, List.mem_map_of_mem
              (ih.mpr ⟨rfl, hchain, Nat.le_of_succ_le_succ hlength⟩)⟩

/-- Nodes that differ from each other stand one behind the other. -/
theorem pairwise_idxOf {ns : List Node} (h : ns.Nodup) :
    ns.Pairwise fun one other => ns.idxOf one < ns.idxOf other := by
  rw [List.pairwise_iff_getElem]
  intro i j hi hj hlt
  rwa [h.idxOf_getElem i hi, h.idxOf_getElem j hj]

theorem positions_cons {n c : Node} {chain : List Node} (h : chain.head? = some c) :
    positions children (n :: chain) = (children n).idxOf c :: positions children chain := by
  obtain ⟨rest, rfl⟩ := List.head?_eq_some_iff.mp h
  rw [positions]

/-- The chains from a node are listed in the order of their calls. -/
theorem pairwise_chainsOf (hnodup : ∀ n, (children n).Nodup) (levels : Nat) (n : Node) :
    (chainsOf children levels n).Pairwise fun one other =>
      positions children one < positions children other := by
  induction levels generalizing n with
  | zero => exact List.pairwise_singleton _ _
  | succ levels ih =>
      rw [chainsOf, List.pairwise_cons, List.pairwise_flatMap]
      refine ⟨fun chain hchain => ?_, fun c _ => ?_, ?_⟩
      · -- no call comes before one
        obtain ⟨c, -, hc⟩ := List.mem_flatMap.mp hchain
        obtain ⟨rest, hrest, rfl⟩ := List.mem_map.mp hc
        rw [positions_cons (head?_of_mem_chainsOf hrest)]
        exact List.nil_lt_cons _ _
      · -- the same call first: the rest decides
        rw [List.pairwise_map]
        refine (ih c).imp_of_mem fun {one other} hone hother hlt => ?_
        rw [positions_cons (head?_of_mem_chainsOf hone),
          positions_cons (head?_of_mem_chainsOf hother)]
        exact List.cons_lt_cons_iff.mpr (.inr ⟨rfl, hlt⟩)
      · -- different calls first: these decide
        refine (pairwise_idxOf (hnodup n)).imp fun {c d} hlt one hone other hother => ?_
        obtain ⟨rest, hrest, rfl⟩ := List.mem_map.mp hone
        obtain ⟨rest', hrest', rfl⟩ := List.mem_map.mp hother
        rw [positions_cons (head?_of_mem_chainsOf hrest),
          positions_cons (head?_of_mem_chainsOf hrest')]
        exact List.cons_lt_cons_iff.mpr (.inl hlt)

theorem Reaches.mono {calls : Node → List Node} (h : ∀ n c, c ∈ children n → c ∈ calls n)
    {origin n : Node} {count : Nat} (hreaches : Reaches children origin count n) :
    Reaches calls origin count n := by
  induction hreaches with
  | start => exact .start
  | call _ hcall ih => exact ih.call (h _ _ hcall)

/-- The nodes that calls lead to are the last ones of chains. -/
theorem reaches_iff_exists_chain {origin n : Node} {count : Nat} :
    Reaches children origin count n ↔
      ∃ chain, chain.head? = some origin ∧ IsCallChain children chain ∧
        chain.length = count + 1 ∧ chain.getLast? = some n := by
  constructor
  · intro h
    induction h with
    | start => exact ⟨[origin], rfl, List.isChain_singleton _, rfl, rfl⟩
    | call h hcall ih =>
        obtain ⟨chain, hhead, hchain, hlength, hlast⟩ := ih
        refine ⟨chain ++ [_], ?_, ?_, ?_, List.getLast?_concat⟩
        · rw [List.head?_append, hhead, Option.some_or]
        · refine List.isChain_append.mpr ⟨hchain, List.isChain_singleton _, ?_⟩
          rintro m hm c hc
          cases hlast.symm.trans hm
          cases hc
          exact hcall
        · rw [List.length_append, hlength, List.length_singleton]
  · rintro ⟨chain, hhead, hchain, hlength, hlast⟩
    induction chain using List.reverseRecOn generalizing n count with
    | nil => cases hhead
    | append_singleton front c ih =>
        rw [List.getLast?_concat] at hlast
        cases hlast
        rw [List.length_append, List.length_singleton, Nat.add_right_cancel_iff] at hlength
        cases hfront : front.getLast? with
        | none =>
            rw [List.getLast?_eq_none_iff.mp hfront] at hhead hlength
            cases hhead
            cases hlength
            exact .start
        | some m =>
            obtain ⟨hchain, -, hcall⟩ := List.isChain_append.mp hchain
            have hne : front ≠ [] := by
              rintro rfl
              cases hfront
            obtain ⟨count, rfl⟩ : ∃ k, count = k + 1 :=
              Nat.exists_eq_succ_of_ne_zero fun hzero =>
                hne (List.length_eq_zero_iff.mp (hlength.trans hzero))
            rw [List.head?_append_of_ne_nil _ hne] at hhead
            exact .call (ih hhead hchain hlength hfront) (hcall m hfront c rfl)

end Chains

/-! ## Reading chains off lines -/

theorem chainsBelow_append (above xs ys : List TreeLine) :
    chainsBelow above (xs ++ ys) =
      chainsBelow above xs ++ chainsBelow (xs.reverse ++ above) ys := by
  induction xs generalizing above with
  | nil => rfl
  | cons x xs ih =>
      rw [List.cons_append, chainsBelow, ih, chainsBelow, List.cons_append, List.reverse_cons,
        List.append_assoc, List.singleton_append]

/-- The nearest lines above, of each depth in turn, show the nodes of a path. -/
def Shows (above : List TreeLine) (path : List Node) : Prop :=
  ((List.range path.length).map fun depth =>
    (above.find? fun l => l.depth = depth).map TreeLine.node) = path.map some

section Reading

variable {above : List TreeLine} {path : List Node}

/-- Lines that are no further out than the end of a path do not hide it. -/
theorem Shows.append (h : Shows above path) {lines : List TreeLine}
    (hdeep : ∀ line ∈ lines, path.length ≤ line.depth) : Shows (lines.reverse ++ above) path := by
  rw [Shows, ← h]
  refine List.map_congr_left fun depth hdepth => ?_
  rw [List.find?_append, List.find?_eq_none.mpr, Option.none_or]
  intro line hline hsame
  have hle := hdeep line (List.mem_reverse.mp hline)
  rw [List.mem_range] at hdepth
  rw [decide_eq_true_iff] at hsame
  omega

/-- A line one level below the end of a path prolongs it. -/
theorem Shows.cons (h : Shows above path) (n : Node) :
    Shows (.ofNode n path.length :: above) (path ++ [n]) := by
  have hdeep : ∀ line ∈ [TreeLine.ofNode n path.length], path.length ≤ line.depth := by
    intro line hline
    rw [List.mem_singleton.mp hline]
    exact Nat.le_refl _
  have hpath := h.append hdeep
  rw [List.reverse_singleton, List.singleton_append] at hpath
  rw [Shows, List.length_append, List.length_singleton, List.range_succ, List.map_append,
    List.map_append, hpath]
  congr 1
  rw [List.map_singleton, List.map_singleton, List.find?_cons]
  simp only [TreeLine.ofNode, decide_true, Option.map_some]
  rfl

/-- Such a line stands for the path to its node. -/
theorem Shows.map_enclosing (h : Shows above path) (n : Node) :
    (enclosing above (.ofNode n path.length)).map TreeLine.node = path ++ [n] := by
  rw [enclosing, List.map_append, List.map_filterMap]
  congr 1
  show (List.range path.length).filterMap (fun depth =>
    (above.find? fun l => l.depth = depth).map TreeLine.node) = path
  have hnodes := congrArg (List.filterMap id) h
  rw [List.filterMap_map, List.filterMap_map] at hnodes
  exact hnodes.trans List.filterMap_some

/-- **Below the path to its root, a tree shows the chains from its root.** -/
theorem chainsBelow_preorder {children : Node → List Node} {bound levels : Nat}
    (hlevels : path.length + levels = bound + 1) (h : Shows above path) (n : Node) :
    chainsBelow above (preorder children bound n path.length) =
      (chainsOf children levels n).map fun chain => path ++ chain := by
  induction levels generalizing above path n with
  | zero =>
      rw [preorder, if_neg (by omega), chainsBelow, chainsBelow, h.map_enclosing]
      rfl
  | succ levels ih =>
      have hbelow : ∀ (cs : List Node) {above : List TreeLine}, Shows above (path ++ [n]) →
          chainsBelow above (cs.flatMap fun c => preorder children bound c (path.length + 1)) =
            cs.flatMap fun c => (chainsOf children levels c).map fun chain =>
              path ++ (n :: chain) := by
        intro cs
        induction cs with
        | nil => exact fun _ => rfl
        | cons c cs ihcs =>
            intro above hshows
            have hlength : (path ++ [n]).length = path.length + 1 := List.length_append
            have htree := ih (by omega) hshows c
            rw [hlength] at htree
            rw [List.flatMap_cons, chainsBelow_append, htree, List.flatMap_cons,
              ihcs (hshows.append fun line hline => hlength ▸ le_depth_of_mem_preorder hline)]
            simp only [List.append_assoc, List.singleton_append]
      rw [preorder, if_pos (by omega), chainsBelow, h.map_enclosing, hbelow _ (h.cons n), chainsOf,
        List.map_cons, List.map_flatMap]
      simp only [List.map_map]
      rfl

/-- Lines and chains of a tree go together. -/
theorem forall₂_preorder {children : Node → List Node} {bound depth levels : Nat}
    (hlevels : depth + levels = bound + 1) (n : Node) :
    List.Forall₂
      (fun line chain => depth + chain.length = line.depth + 1 ∧ chain.getLast? = some line.node)
      (preorder children bound n depth) (chainsOf children levels n) := by
  induction levels generalizing depth n with
  | zero =>
      rw [preorder, if_neg (by omega), chainsOf]
      exact .cons ⟨rfl, rfl⟩ .nil
  | succ levels ih =>
      rw [preorder, if_pos (by omega), chainsOf]
      refine .cons ⟨rfl, rfl⟩ ?_
      induction children n with
      | nil => exact .nil
      | cons c cs ihcs =>
          rw [List.flatMap_cons, List.flatMap_cons]
          refine List.rel_append (List.forall₂_map_right_iff.mpr ?_) ihcs
          refine (ih (by omega) c).imp fun line chain hchain => ⟨?_, ?_⟩
          · rw [List.length_cons, ← hchain.1]
            omega
          · rw [List.getLast?_cons, hchain.2, Option.getD_some]

end Reading

/-! ## Walks -/

theorem callChains_preorder (children : Node → List Node) (bound : Nat) (origin : Node) :
    callChains (preorder children bound origin 0) = chainsOf children (bound + 1) origin := by
  have hlevels : ([] : List Node).length + (bound + 1) = bound + 1 := Nat.zero_add _
  have hshows : Shows [] [] := rfl
  rw [callChains]
  exact (chainsBelow_preorder hlevels hshows origin).trans (List.map_id _)

/-- Each line of a tree goes with its chain. -/
theorem line_chain_preorder (children : Node → List Node) (bound : Nat) (origin : Node) :
    List.Forall₂
      (fun line chain => chain.length = line.depth + 1 ∧ chain.getLast? = some line.node)
      (preorder children bound origin 0) (chainsOf children (bound + 1) origin) :=
  (forall₂_preorder (Nat.zero_add (bound + 1)) origin).imp fun _ _ h =>
    ⟨(Nat.zero_add _).symm.trans h.1, h.2⟩

/-- A tree shows the nodes that its root reaches. -/
theorem mem_node_preorder {children : Node → List Node} {bound : Nat} {origin n : Node} :
    n ∈ (preorder children bound origin 0).map TreeLine.node ↔
      ∃ count ≤ bound + 1, Reaches children origin count n := by
  have hnodes : (preorder children bound origin 0).map (fun line => some line.node) =
      (chainsOf children (bound + 1) origin).map List.getLast? := by
    rw [← List.forall₂_eq_eq_eq, List.forall₂_map_left_iff, List.forall₂_map_right_iff]
    exact (line_chain_preorder children bound origin).imp fun line chain h => h.2.symm
  have hshown : n ∈ (preorder children bound origin 0).map TreeLine.node ↔
      ∃ chain ∈ chainsOf children (bound + 1) origin, chain.getLast? = some n := by
    rw [← List.mem_map, ← hnodes, List.mem_map, List.mem_map]
    simp only [Option.some.injEq]
  rw [hshown]
  constructor
  · rintro ⟨chain, hmem, hlast⟩
    obtain ⟨hhead, hchain, hlength⟩ := mem_chainsOf.mp hmem
    obtain ⟨rest, rfl⟩ := List.head?_eq_some_iff.mp hhead
    exact ⟨rest.length, Nat.le_of_succ_le_succ hlength,
      reaches_iff_exists_chain.mpr ⟨_, hhead, hchain, rfl, hlast⟩⟩
  · rintro ⟨count, hle, hreaches⟩
    obtain ⟨chain, hhead, hchain, hlength, hlast⟩ := reaches_iff_exists_chain.mp hreaches
    exact ⟨chain, mem_chainsOf.mpr ⟨hhead, hchain, hlength ▸ Nat.succ_le_succ hle⟩, hlast⟩

/-- A tree shows the chains of calls from its root, if the callees of a node differ. -/
theorem showsChains_preorder {children calls : Node → List Node}
    (hnodup : ∀ n, (children n).Nodup) (hcalls : ∀ n c, c ∈ children n ↔ c ∈ calls n)
    (origin : Node) (bound : Nat) :
    ShowsChains children calls origin bound (preorder children bound origin 0) := by
  have hordered := pairwise_chainsOf hnodup (bound + 1) origin
  constructor
  · rw [callChains_preorder]
    exact line_chain_preorder children bound origin
  · intro chain
    rw [callChains_preorder]
    exact mem_chainsOf
  · rw [callChains_preorder]
    refine hordered.imp fun {one other} hlt heq => ?_
    rw [heq] at hlt
    exact List.lt_irrefl _ hlt
  · rwa [callChains_preorder]
  · exact fun line hline => depth_le_of_mem_preorder (Nat.zero_le _) hline
  · intro n
    rw [mem_node_preorder]
    refine exists_congr fun count => and_congr_right fun _ => ⟨?_, ?_⟩
    · exact fun h => h.mono fun m c => (hcalls m c).mp
    · exact fun h => h.mono fun m c => (hcalls m c).mpr

/-- **The lines of a walk are the call chains from its origin** that the bound allows, in every
ledger and in every archive. -/
theorem walk_showsChains (origin : Origin) :
    (∀ l : Ledger, ShowsChains (fun n => l.children n) (fun n => l.callees n) origin.node
        origin.depthBound (walk l origin)) ∧
      ∀ a : Archive, ShowsChains (fun n => a.children n) (fun n => a.callees n) origin.node
        origin.depthBound (walk a origin) := by
  constructor
  · intro l
    rw [walk_eq]
    exact showsChains_preorder (fun n => nodup_firstOccurrences [] _)
      (fun n c => mem_firstOccurrences) _ _
  · intro a
    rw [walk_eq]
    exact showsChains_preorder (fun n => nodup_firstOccurrences [] _)
      (fun n c => mem_firstOccurrences) _ _

/-- The chains of a small walk. -/
example : (callChains (walk recursion ⟨.unresolved "a", 1⟩)).map (List.map Node.name) =
    [["a"], ["a", "a"], ["a", "a", "a"], ["a", "a", "b"], ["a", "b"], ["a", "b", "a"]] := by
  decide +kernel

end Walk

end CallForest
