import Mathlib.Data.List.Nodup

/-!
# Forests

A forest of names, and what it says of who calls whom: the root of a tree calls the roots of the
forest below it (`calls`). When no name stands at two places, the calls of a name give back the
roots below it, in their order, wherever in the forest its tree is (`calleesIn_of_mem_trees`).
-/

namespace CallForest

/-- Nothing, or a first tree, which is the name at its root and the forest below it, and the trees
behind. -/
inductive Forest where
  | nil
  | cons (name : String) (below behind : Forest)
  deriving DecidableEq, Repr

namespace Forest

/-- The names of a forest, each before those below it. -/
def names : Forest → List String
  | nil => []
  | cons name below behind => name :: (below.names ++ behind.names)

/-- The names at the roots. -/
def roots : Forest → List String
  | nil => []
  | cons name _ behind => name :: behind.roots

/-- The trees that hang from the nodes of a forest, each as its root and the forest below. -/
def trees : Forest → List (String × Forest)
  | nil => []
  | cons name below behind => (name, below) :: (below.trees ++ behind.trees)

/-- Who calls whom in a forest that stands below a caller, or below none. -/
def calls (caller : Option String) : Forest → List (String × String)
  | nil => []
  | cons name below behind =>
    (caller.map fun c => (c, name)).toList ++ (calls (some name) below ++ calls caller behind)

/-! ## Names -/

theorem roots_sublist_names (f : Forest) : f.roots.Sublist f.names := by
  induction f with
  | nil => exact List.Sublist.refl _
  | cons name below behind _ ih =>
      exact (ih.trans (List.sublist_append_right _ _)).cons_cons name

theorem mem_names_of_mem_trees {f : Forest} {t : String × Forest} (ht : t ∈ f.trees) :
    t.1 ∈ f.names := by
  induction f with
  | nil => cases ht
  | cons name below behind ihBelow ihBehind =>
      rw [names, List.mem_cons, List.mem_append]
      rcases List.mem_cons.mp ht with rfl | ht
      · exact .inl rfl
      · rcases List.mem_append.mp ht with ht | ht
        · exact .inr (.inl (ihBelow ht))
        · exact .inr (.inr (ihBehind ht))

/-- The names below a node are in the order of the forest. -/
theorem names_sublist_of_mem_trees {f : Forest} {t : String × Forest} (ht : t ∈ f.trees) :
    t.2.names.Sublist f.names := by
  induction f with
  | nil => cases ht
  | cons name below behind ihBelow ihBehind =>
      refine List.Sublist.cons _ ?_
      rcases List.mem_cons.mp ht with rfl | ht
      · exact List.sublist_append_left _ _
      · rcases List.mem_append.mp ht with ht | ht
        · exact (ihBelow ht).trans (List.sublist_append_left _ _)
        · exact (ihBehind ht).trans (List.sublist_append_right _ _)

/-- A tree below a node is a tree of the forest. -/
theorem trees_trans {f : Forest} {t s : String × Forest} (ht : t ∈ f.trees) (hs : s ∈ t.2.trees) :
    s ∈ f.trees := by
  induction f with
  | nil => cases ht
  | cons name below behind ihBelow ihBehind =>
      rw [trees, List.mem_cons, List.mem_append]
      rcases List.mem_cons.mp ht with rfl | ht
      · exact .inr (.inl hs)
      · rcases List.mem_append.mp ht with ht | ht
        · exact .inr (.inl (ihBelow ht))
        · exact .inr (.inr (ihBehind ht))

/-! ## Calls -/

/-- What a name calls, in order. -/
def calleesIn (cs : List (String × String)) (name : String) : List String :=
  (cs.filter fun c => c.1 = name).map Prod.snd

theorem calleesIn_append (cs ds : List (String × String)) (name : String) :
    calleesIn (cs ++ ds) name = calleesIn cs name ++ calleesIn ds name := by
  rw [calleesIn, List.filter_append, List.map_append]
  rfl

/-- A call is from the caller that the forest stands below, or from one of its names. -/
theorem caller_of_mem_calls {caller : Option String} {f : Forest} {c : String × String}
    (hc : c ∈ f.calls caller) : caller = some c.1 ∨ c.1 ∈ f.names := by
  induction f generalizing caller with
  | nil => cases hc
  | cons name below behind ihBelow ihBehind =>
      rw [names, List.mem_cons, List.mem_append]
      rcases List.mem_append.mp hc with hc | hc
      · rw [Option.mem_toList, Option.map_eq_some_iff] at hc
        obtain ⟨p, hp, rfl⟩ := hc
        exact .inl hp
      · rcases List.mem_append.mp hc with hc | hc
        · rcases ihBelow hc with hname | hmem
          · exact .inr (.inl (Option.some.inj hname).symm)
          · exact .inr (.inr (.inl hmem))
        · rcases ihBehind hc with hcaller | hmem
          · exact .inl hcaller
          · exact .inr (.inr (.inr hmem))

theorem callee_of_mem_calls {caller : Option String} {f : Forest} {c : String × String}
    (hc : c ∈ f.calls caller) : c.2 ∈ f.names := by
  induction f generalizing caller with
  | nil => cases hc
  | cons name below behind ihBelow ihBehind =>
      rw [names, List.mem_cons, List.mem_append]
      rcases List.mem_append.mp hc with hc | hc
      · rw [Option.mem_toList, Option.map_eq_some_iff] at hc
        obtain ⟨p, -, rfl⟩ := hc
        exact .inl rfl
      · rcases List.mem_append.mp hc with hc | hc
        · exact .inr (.inl (ihBelow hc))
        · exact .inr (.inr (ihBehind hc))

/-- There is at most one call of each name. -/
theorem length_calls_le (caller : Option String) (f : Forest) :
    (f.calls caller).length ≤ f.names.length := by
  induction f generalizing caller with
  | nil => exact Nat.le_refl 0
  | cons name below behind ihBelow ihBehind =>
      have hbelow := ihBelow (some name)
      have hbehind := ihBehind caller
      have hroot : (caller.map fun c => (c, name)).toList.length ≤ 1 := by cases caller <;> simp
      rw [calls, names]
      simp only [List.length_append, List.length_cons]
      omega

theorem calleesIn_calls_of_not_mem {caller : Option String} {f : Forest} {name : String}
    (hcaller : caller ≠ some name) (hname : name ∉ f.names) :
    calleesIn (f.calls caller) name = [] := by
  rw [calleesIn, List.map_eq_nil_iff, List.filter_eq_nil_iff]
  intro c hc heq
  rw [decide_eq_true_iff] at heq
  subst heq
  exact (caller_of_mem_calls hc).elim hcaller hname

theorem calleesIn_root {caller : Option String} {name root : String} (h : caller ≠ some name) :
    calleesIn (caller.map fun c => (c, root)).toList name = [] := by
  cases caller with
  | none => rfl
  | some c =>
      have hne : c ≠ name := fun heq => h (congrArg some heq)
      simp [calleesIn, hne]

/-- The caller of a forest calls its roots. -/
theorem calleesIn_calls_caller {f : Forest} {name : String} (hname : name ∉ f.names) :
    calleesIn (f.calls (some name)) name = f.roots := by
  induction f with
  | nil => rfl
  | cons root below behind _ ih =>
      rw [names, List.mem_cons, List.mem_append, not_or, not_or] at hname
      obtain ⟨hroot, hbelow, hbehind⟩ := hname
      have hne : some root ≠ some name := fun heq => hroot (Option.some.inj heq).symm
      rw [calls, calleesIn_append, calleesIn_append, calleesIn_calls_of_not_mem hne hbelow,
        ih hbehind]
      simp [calleesIn, roots]

/-- **A node calls the roots below it**, wherever it is in a forest without repeated names. -/
theorem calleesIn_of_mem_trees {caller : Option String} {f : Forest} {t : String × Forest}
    (ht : t ∈ f.trees) (hnodup : f.names.Nodup) (hcaller : ∀ c ∈ caller, c ∉ f.names) :
    calleesIn (f.calls caller) t.1 = t.2.roots := by
  have hne : caller ≠ some t.1 := fun heq => hcaller t.1 heq (mem_names_of_mem_trees ht)
  induction f generalizing caller with
  | nil => cases ht
  | cons name below behind ihBelow ihBehind =>
      obtain ⟨hname, hrest⟩ := List.nodup_cons.mp hnodup
      obtain ⟨hbelow, hbehind, hdisjoint⟩ := List.nodup_append'.mp hrest
      rw [calls, calleesIn_append, calleesIn_append, calleesIn_root hne, List.nil_append]
      rcases List.mem_cons.mp ht with rfl | ht
      · rw [List.mem_append, not_or] at hname
        rw [calleesIn_calls_caller hname.1, calleesIn_calls_of_not_mem hne hname.2,
          List.append_nil]
      · have hmem := (List.mem_append.mp ht).imp mem_names_of_mem_trees mem_names_of_mem_trees
        have hnot : some name ≠ some t.1 := by
          intro heq
          rw [Option.some.inj heq] at hname
          exact hname (List.mem_append.mpr hmem)
        rw [List.mem_append, not_or] at hname
        rcases List.mem_append.mp ht with ht | ht
        · have hfree : t.1 ∉ behind.names := hdisjoint (mem_names_of_mem_trees ht)
          rw [calleesIn_calls_of_not_mem hne hfree, List.append_nil]
          refine ihBelow ht hbelow ?_ hnot
          intro c hc
          rw [← Option.some.inj hc]
          exact hname.1
        · have hfree : t.1 ∉ below.names := fun hin => hdisjoint hin (mem_names_of_mem_trees ht)
          rw [calleesIn_calls_of_not_mem hnot hfree, List.nil_append]
          refine ihBehind ht hbehind ?_ hne
          intro c hc hin
          exact hcaller c hc (List.mem_cons_of_mem _ (List.mem_append_right _ hin))

end Forest

end CallForest
