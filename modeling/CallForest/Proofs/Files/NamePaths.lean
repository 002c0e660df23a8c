import CallForest.Proofs.Files.DumpPaths
import Mathlib.Data.List.TakeWhile

/-!
# Paths along names

A path along names that hold no slash is taken apart into just these names, so different names come
to different paths (`intercalate_inj`), and joined to a root it is what comes of joining the names
to it one after the other (`pathBelow_eq`). What stands behind the last dot of a name is its
extension (`nameExtension?_eq_some`).
-/

namespace CallForest

/-- What is behind the first elements that have a property begins with one that does not. -/
theorem drop_length_takeWhile {α : Type} (p : α → Bool) (l : List α) :
    l.drop (l.takeWhile p).length = l.dropWhile p := by
  have hdrop := @List.drop_left _ (l.takeWhile p) (l.dropWhile p)
  rwa [List.takeWhile_append_dropWhile] at hdrop

namespace Path

/-- The name of a file or a directory without a backslash. -/
structure IsPlainName (name : String) : Prop where
  ne_empty : name ≠ ""
  slash : '/' ∉ name.toList
  backslash : '\\' ∉ name.toList

instance (name : String) : Decidable (IsPlainName name) :=
  decidable_of_iff (name ≠ "" ∧ '/' ∉ name.toList ∧ '\\' ∉ name.toList)
    ⟨fun h => ⟨h.1, h.2.1, h.2.2⟩, fun h => ⟨h.1, h.2, h.3⟩⟩

/-! ## Paths along names -/

theorem isEmpty_append_of_ne {name : String} (h : name ≠ "") (front : String) :
    (front ++ name).isEmpty = false := by
  simpa [String.isEmpty_iff] using fun _ => h

/-- Paths that are not absolute are joined to a root in one way. -/
theorem exists_join_eq (root : String) :
    ∃ slash, ∀ path, isAbsolute path = false → join root path = root ++ slash ++ path := by
  by_cases h : (root.isEmpty || root.toList.getLast? == some '/') = true
  · refine ⟨"", fun path hpath => ?_⟩
    rw [join, hpath, if_neg Bool.false_ne_true, if_pos h, String.append_empty]
  · refine ⟨"/", fun path hpath => ?_⟩
    rw [join, hpath, if_neg Bool.false_ne_true, if_neg h]

/-- What is joined to a name is behind a slash. -/
theorem join_join {name rest : String} (hname : IsPlainName name) (hrest : isAbsolute rest = false)
    (root : String) : join (join root name) rest = join root (name ++ "/" ++ rest) := by
  have hlast : ∀ front : String, join (front ++ name) rest = front ++ (name ++ "/" ++ rest) := by
    intro front
    have hslash := asksForDirectory_append hname.slash hname.ne_empty front
    have hempty := isEmpty_append_of_ne hname.ne_empty front
    rw [FileSystem.asksForDirectory] at hslash
    rw [join, hrest, hempty, hslash, if_neg Bool.false_ne_true, Bool.or_false,
      if_neg Bool.false_ne_true, String.append_assoc, String.append_assoc, String.append_assoc]
  have hname' := isAbsolute_of_not_mem hname.slash
  have habsolute : isAbsolute (name ++ "/" ++ rest) = false := by
    rw [String.append_assoc, isAbsolute_append_of_ne hname.ne_empty, hname']
  obtain ⟨slash, hjoin⟩ := exists_join_eq root
  rw [hjoin name hname', hjoin _ habsolute]
  exact hlast (root ++ slash)

section Names

variable {names : List String}

theorem splitOn_intercalate (h : ∀ n ∈ names, '/' ∉ n.toList) (hne : names ≠ []) :
    (String.intercalate "/" names).toList.splitOn '/' = names.map String.toList := by
  rw [String.toList_intercalate]
  refine List.splitOn_intercalate '/' ?_ (by simpa using hne)
  exact List.forall_mem_map.mpr h

/-- Different names come to different paths. -/
theorem intercalate_inj {others : List String} (h : ∀ n ∈ names, '/' ∉ n.toList)
    (hothers : ∀ n ∈ others, '/' ∉ n.toList) (hne : names ≠ []) (hne' : others ≠ [])
    (heq : String.intercalate "/" names = String.intercalate "/" others) : names = others := by
  have hsplit := splitOn_intercalate h hne
  rw [heq, splitOn_intercalate hothers hne'] at hsplit
  exact (List.map_inj_right fun _ _ => String.ext).mp hsplit.symm

theorem isAbsolute_intercalate (h : ∀ n ∈ names, IsPlainName n) :
    isAbsolute (String.intercalate "/" names) = false := by
  obtain _ | ⟨n, _ | ⟨m, ms⟩⟩ := names
  · rfl
  · exact isAbsolute_of_not_mem (h n List.mem_cons_self).slash
  · have hn := h n List.mem_cons_self
    rw [String.intercalate_cons_cons, String.append_assoc, isAbsolute_append_of_ne hn.ne_empty,
      isAbsolute_of_not_mem hn.slash]

/-- A path along names is joined as a whole, too. -/
theorem pathBelow_eq (h : ∀ n ∈ names, IsPlainName n) (hne : names ≠ []) (root : String) :
    SourceList.pathBelow root names = join root (String.intercalate "/" names) := by
  induction names generalizing root with
  | nil => exact absurd rfl hne
  | cons n names ih =>
      obtain ⟨hn, hnames⟩ := List.forall_mem_cons.mp h
      cases names with
      | nil => rfl
      | cons m ms =>
          rw [String.intercalate_cons_cons, ← join_join hn (isAbsolute_intercalate hnames)]
          exact ih hnames (List.cons_ne_nil m ms) (join root n)

end Names

/-! ## Extensions -/

/-- An extension stands behind the last dot of a name, if that is not its first character. -/
theorem nameExtension?_eq_some {name extension : String} :
    nameExtension? name = some extension ↔
      ∃ stem, stem ≠ "" ∧ '.' ∉ extension.toList ∧ name = stem ++ "." ++ extension := by
  constructor
  · intro h
    have hsplit := List.takeWhile_append_dropWhile (p := (· ≠ '.')) (l := name.toList.reverse)
    rw [nameExtension?, drop_length_takeWhile] at h
    split at h
    · next dot c front heq =>
      obtain rfl := Option.some.inj h
      have hstop : decide (dot ≠ '.') = false := by
        have hhead := List.head_dropWhile_not (fun c => decide (c ≠ '.'))
          (l := name.toList.reverse) (by rw [heq]; exact List.cons_ne_nil _ _)
        simpa only [heq, List.head_cons] using hhead
      obtain rfl : dot = '.' := by simpa using hstop
      rw [heq] at hsplit
      refine ⟨String.ofList (front.reverse ++ [c]), ?_, ?_, ?_⟩
      · simp
      · rw [String.toList_ofList, List.mem_reverse]
        intro hmem
        simpa using List.mem_takeWhile_imp hmem
      · have hname := (congrArg List.reverse hsplit).symm
        rw [List.reverse_reverse] at hname
        refine String.ext (hname.trans ?_)
        simp
    · cases h
  · rintro ⟨stem, hstem, hdot, rfl⟩
    have hreverse : (stem ++ "." ++ extension).toList.reverse =
        extension.toList.reverse ++ '.' :: stem.toList.reverse := by simp
    have hending : ∀ c ∈ extension.toList.reverse, decide (c ≠ '.') = true := by
      intro c hc
      refine decide_eq_true fun heq => ?_
      subst heq
      exact hdot (List.mem_reverse.mp hc)
    obtain ⟨c, cs, hcs⟩ := List.exists_cons_of_ne_nil (l := stem.toList.reverse) (by
      simpa using hstem)
    rw [nameExtension?, hreverse, List.takeWhile_append_of_pos hending,
      List.takeWhile_cons_of_neg (by decide), List.append_nil, List.drop_left, hcs]
    exact congrArg some (by rw [List.reverse_reverse, String.ofList_toList])

end Path

end CallForest
