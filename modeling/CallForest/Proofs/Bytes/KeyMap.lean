import CallForest.Bytes.KeyMap

/-!
# Ordered maps

`Bytes.before` is a strict total order in which a common stem plays no part, so a map that is sorted
by it has one place for each key. What a map holds is said by `find?` (`find?_insert`); how its
entries stand is said by a permutation: a fresh key adds one entry to those there are
(`insert_perm`), and the map stays sorted (`Sorted.insert`). A sorted map is the only sorted
arrangement of its entries (`Sorted.eq_of_perm`).
-/

namespace CallForest

namespace Bytes

theorem before_irrefl (a : Bytes) : before a a = false := by
  induction a with
  | nil => rfl
  | cons x a ih => simp [before, ih]

theorem before_trans {a b c : Bytes} (hab : before a b = true) (hbc : before b c = true) :
    before a c = true := by
  induction b generalizing a c with
  | nil => cases a <;> simp [before] at hab
  | cons y b ih =>
      cases c with
      | nil => simp [before] at hbc
      | cons z c =>
          cases a with
          | nil => rfl
          | cons x a =>
              simp only [before, Bool.or_eq_true, Bool.and_eq_true, decide_eq_true_eq,
                beq_iff_eq] at hab hbc ⊢
              rcases hab with hxy | ⟨rfl, hab⟩
              · rcases hbc with hyz | ⟨rfl, -⟩
                · exact .inl (UInt8.lt_trans hxy hyz)
                · exact .inl hxy
              · rcases hbc with hyz | ⟨rfl, hbc⟩
                · exact .inl hyz
                · exact .inr ⟨rfl, ih hab hbc⟩

theorem before_asymm {a b : Bytes} (hab : before a b = true) : before b a = false := by
  cases hba : before b a with
  | false => rfl
  | true => rw [← before_irrefl a, before_trans hab hba]

/-- Of two different keys one comes first. -/
theorem before_of_not_before {a b : Bytes} (hne : a ≠ b) (h : before a b = false) :
    before b a = true := by
  induction a generalizing b with
  | nil =>
      cases b with
      | nil => exact absurd rfl hne
      | cons y b => cases h
  | cons x a ih =>
      cases b with
      | nil => rfl
      | cons y b =>
          simp only [before, Bool.or_eq_false_iff, Bool.and_eq_false_iff, decide_eq_false_iff_not,
            beq_eq_false_iff_ne] at h
          simp only [before, Bool.or_eq_true, Bool.and_eq_true, decide_eq_true_eq, beq_iff_eq]
          by_cases hxy : x = y
          · subst hxy
            refine .inr ⟨rfl, ih (fun hab => hne (by rw [hab])) ?_⟩
            rcases h.2 with hx | hab
            · exact absurd rfl hx
            · exact hab
          · left
            rw [UInt8.lt_iff_toNat_lt]
            have hlt := h.1
            rw [UInt8.lt_iff_toNat_lt] at hlt
            have hne' : x.toNat ≠ y.toNat := fun heq => hxy (UInt8.toNat_inj.mp heq)
            omega

/-- A common stem plays no part in the order. -/
theorem before_append_left (stem a b : Bytes) : before (stem ++ a) (stem ++ b) = before a b := by
  induction stem with
  | nil => rfl
  | cons x stem ih => simp [before, ih]

/-- Among keys of one length, a last byte decides only where the bytes before it agree. -/
theorem before_append_singleton {a b : Bytes} (x y : UInt8) (hlen : a.length = b.length) :
    before (a ++ [x]) (b ++ [y]) = (before a b || (a == b && x < y)) := by
  induction a generalizing b with
  | nil =>
      cases b with
      | nil => simp [before]
      | cons z b => cases hlen
  | cons w a ih =>
      cases b with
      | nil => cases hlen
      | cons z b =>
          rw [List.length_cons, List.length_cons, Nat.add_right_cancel_iff] at hlen
          rw [List.cons_append, List.cons_append, before, before, ih hlen]
          by_cases hwz : w = z
          · subst hwz
            simp
          · simp [beq_eq_false_iff_ne.mpr hwz]

end Bytes

namespace KeyMap

/-- The keys increase. -/
def Sorted (m : KeyMap) : Prop :=
  m.Pairwise fun e f => e.1.before f.1 = true

theorem sorted_nil : Sorted [] := List.Pairwise.nil

/-! ## What a map holds -/

theorem find?_cons (key : Bytes) (e : Bytes × Bytes) (m : KeyMap) :
    find? key (e :: m) = if e.1 = key then some e.2 else find? key m := by
  unfold find?
  rw [List.find?_cons]
  by_cases h : e.1 = key <;> simp [h]

/-- Setting a key changes what is found under that key alone. -/
theorem find?_insert (key value k : Bytes) (m : KeyMap) :
    find? k (m.insert key value) = if key = k then some value else find? k m := by
  induction m with
  | nil => rw [insert, find?_cons]
  | cons e m ih =>
      obtain ⟨k', v⟩ := e
      rw [insert]
      split
      · rename_i heq
        subst heq
        rw [find?_cons, find?_cons]
        split <;> rfl
      · rename_i hne
        split
        · rw [find?_cons]
        · rw [find?_cons, find?_cons, ih]
          by_cases hk : k' = k
          · subst hk
            rw [if_pos rfl, if_neg (Ne.symm hne), if_pos rfl]
          · rw [if_neg hk, if_neg hk]

/-! ## How the entries stand -/

/-- A fresh key adds an entry to those there are. -/
theorem insert_perm {key value : Bytes} {m : KeyMap} (h : ∀ e ∈ m, e.1 ≠ key) :
    (m.insert key value).Perm ((key, value) :: m) := by
  induction m with
  | nil => exact List.Perm.refl _
  | cons e m ih =>
      obtain ⟨hne, hm⟩ := List.forall_mem_cons.mp h
      rw [insert, if_neg hne]
      split
      · exact List.Perm.refl _
      · exact ((ih hm).cons e).trans (List.Perm.swap _ _ _)

theorem length_insert_le (key value : Bytes) (m : KeyMap) :
    (m.insert key value).length ≤ m.length + 1 := by
  induction m with
  | nil => exact Nat.le_refl _
  | cons e m ih =>
      rw [insert]
      split
      · exact Nat.le_succ _
      · split
        · exact Nat.le_refl _
        · exact Nat.succ_le_succ ih

/-- Every entry of a map after setting a key was there before or is the new one. -/
theorem mem_insert {key value : Bytes} {m : KeyMap} {e : Bytes × Bytes}
    (he : e ∈ m.insert key value) : e = (key, value) ∨ e ∈ m := by
  induction m with
  | nil => exact .inl (List.mem_singleton.mp he)
  | cons f m ih =>
      rw [insert] at he
      split at he
      · rcases List.mem_cons.mp he with rfl | he
        · exact .inl rfl
        · exact .inr (List.mem_cons_of_mem _ he)
      · split at he
        · exact List.mem_cons.mp he
        · rcases List.mem_cons.mp he with rfl | he
          · exact .inr List.mem_cons_self
          · rcases ih he with rfl | he
            · exact .inl rfl
            · exact .inr (List.mem_cons_of_mem _ he)

/-- A sorted map stays sorted. -/
theorem Sorted.insert {m : KeyMap} (h : Sorted m) (key value : Bytes) :
    Sorted (m.insert key value) := by
  induction m with
  | nil => exact List.pairwise_singleton _ _
  | cons e m ih =>
      obtain ⟨he, hm⟩ := List.pairwise_cons.mp h
      rw [KeyMap.insert]
      split
      · rename_i heq
        refine List.pairwise_cons.mpr ⟨?_, hm⟩
        intro f hf
        exact heq ▸ he f hf
      · rename_i hne
        split
        · rename_i hlt
          refine List.pairwise_cons.mpr ⟨?_, h⟩
          intro f hf
          rcases List.mem_cons.mp hf with rfl | hf
          · exact hlt
          · exact Bytes.before_trans hlt (he f hf)
        · rename_i hge
          refine List.pairwise_cons.mpr ⟨?_, ih hm⟩
          intro f hf
          rcases mem_insert hf with rfl | hf
          · exact Bytes.before_of_not_before (Ne.symm hne) (Bool.eq_false_iff.mpr hge)
          · exact he f hf

/-- Two sorted maps with the same entries are equal. -/
theorem Sorted.eq_of_perm {m n : KeyMap} (hm : Sorted m) (hn : Sorted n) (h : m.Perm n) :
    m = n := by
  refine List.Perm.eq_of_pairwise ?_ hm hn h
  intro e f _ _ hef hfe
  rw [Bytes.before_asymm hef] at hfe
  cases hfe

end KeyMap

end CallForest
