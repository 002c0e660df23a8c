import CallForest.Proofs.Files.WellFormed

/-!
# Outputs that do not disturb each other

Names that differ, in one directory, lead to different places (`leadsTo?_false_concat`). So outputs
that are written there are kept apart, unless one of them is a link or two of them are names of one
file. Outputs that are kept apart (`Separate`) still are when one of them has been written
(`Separate.write`); that one then holds what was written (`Separate.holds_write`), and the others
hold what they did (`Separate.leftAlone_write`).
-/

namespace CallForest

/-- Whether an entry is a device, which keeps nothing of what is written to it. -/
def Entry.isDevice : Entry → Bool
  | device _ => true
  | file _ | program _ | link _ | directory _ _ => false

@[simp] theorem Entry.isDevice_bare (e : Entry) : e.bare.isDevice = e.isDevice := by
  cases e <;> rfl

namespace FileSystem

/-! ## Names in one directory -/

section Concat

variable {root : Directory} {here names : List String} {name : String}

/-- The name that ends a path is looked for in the directory that the names before it lead to. -/
def endsAt? (root : Directory) (name : String) (base : List String) : Option (List String) :=
  if root.isDirectoryAt base && !decide (maxName < Utf8.size name) then some (base ++ [name])
  else none

theorem walk_concat (hdot : name ≠ ".") (hdots : name ≠ "..") :
    (walk root false here (names ++ [name])).toOption.map Progress.place =
      ((walk root true here names).toOption.map Progress.place).bind fun
        | .arrived base _ => (endsAt? root name base).map fun l => .arrived l none
        | .linked there path rest => some (.linked there path (rest ++ [name])) := by
  induction names generalizing here with
  | nil =>
      rw [List.nil_append, walk_cons, if_neg hdot, if_neg hdots]
      show _ = (endsAt? root name here).map _
      rw [endsAt?]
      split
      · split <;> rfl
      · rfl
  | cons n names ih =>
      rw [List.cons_append, walk_cons, walk_cons]
      split
      · split
        · exact ih
        · split
          · exact ih
          · -- both walks follow a link here: in the first more names come, the second asks for it
            have hmore : (names ++ [name]).isEmpty = false := by cases names <;> rfl
            split
            · rw [hmore, Bool.not_true, Bool.and_false, Bool.false_and]
              rfl
            · exact ih
      · rfl

theorem follow_concat (hdot : name ≠ ".") (hdots : name ≠ "..") (links : Nat) :
    (follow root false links here (names ++ [name])).toOption.map Prod.fst =
      ((follow root true links here names).toOption.map Prod.fst).bind (endsAt? root name) := by
  induction links generalizing here names with
  | zero => rfl
  | succ links ih =>
      rw [follow_succ, follow_succ, walk_concat hdot hdots]
      cases (walk root true here names).toOption.map Progress.place with
      | none => rfl
      | some progress =>
          cases progress with
          | arrived base entry =>
              show ((endsAt? root name base).map _).bind _ = endsAt? root name base
              cases endsAt? root name base <;> rfl
          | linked there path rest =>
              simp only [Option.bind_some]
              split
              · rfl
              · rw [← List.append_assoc]
                exact ih

/-- Where the pieces of a path lead that end in a name. -/
theorem leadsTo?_false_concat {fs : FileSystem} {path : String} {front : List String}
    (hpieces : Path.pieces path = front ++ [name]) (hdot : name ≠ ".") (hdots : name ≠ "..")
    (hslash : asksForDirectory path = false) {l : List String}
    (h : fs.leadsTo? false path = some l) :
    ∃ base, (follow fs.root true (maxLinks + 1)
        (if Path.isAbsolute path then [] else fs.workingDirectory) front).toOption.map Prod.fst =
          some base ∧ l = base ++ [name] := by
  rw [leadsTo?] at h
  split at h
  · cases h
  · rw [hpieces, hslash, Bool.or_false, follow_concat hdot hdots] at h
    obtain ⟨base, hbase, hend⟩ := Option.bind_eq_some_iff.mp h
    rw [endsAt?] at hend
    split at hend
    · exact ⟨base, hbase, (Option.some.inj hend).symm⟩
    · cases hend

end Concat

/-! ## Outputs -/

/-- No output is a device, which would keep nothing, and no two of them are names of one file. The
files that are there are stored. -/
structure OwnFiles (fs : FileSystem) (outputs : List String) : Prop where
  no_device : ∀ o ∈ outputs, ∀ l ∈ fs.leadsTo? true o, (fs.root.get? l).any Entry.isDevice = false
  number_ne : ∀ o ∈ outputs, ∀ p ∈ outputs, o ≠ p → ∀ n ∈ fs.fileOf? o, n ∉ fs.fileOf? p
  number_lt : ∀ o ∈ outputs, ∀ n ∈ fs.fileOf? o, n < fs.stored.size

instance (fs : FileSystem) (outputs : List String) : Decidable (fs.OwnFiles outputs) :=
  decidable_of_iff
    ((∀ o ∈ outputs, ∀ l ∈ fs.leadsTo? true o, (fs.root.get? l).any Entry.isDevice = false) ∧
      (∀ o ∈ outputs, ∀ p ∈ outputs, o ≠ p → ∀ n ∈ fs.fileOf? o, n ∉ fs.fileOf? p) ∧
      ∀ o ∈ outputs, ∀ n ∈ fs.fileOf? o, n < fs.stored.size)
    ⟨fun ⟨hdevice, hnumber, hlt⟩ => ⟨hdevice, hnumber, hlt⟩,
      fun h => ⟨h.no_device, h.number_ne, h.number_lt⟩⟩

/-- Outputs lead to different places as well, whether something is there or not. -/
structure Separate (fs : FileSystem) (outputs : List String) : Prop extends
    OwnFiles fs outputs where
  location_ne : ∀ o ∈ outputs, ∀ p ∈ outputs, o ≠ p → ∀ l ∈ fs.leadsTo? true o,
    l ∉ fs.leadsTo? true p

/-- A single output of a well-formed file system is in nobody's way. -/
theorem WellFormed.separate_singleton {fs : FileSystem} (h : fs.WellFormed) {o : String}
    (hdevice : ∀ l ∈ fs.leadsTo? true o, (fs.root.get? l).any Entry.isDevice = false) :
    fs.Separate [o] where
  no_device _ ho := List.mem_singleton.mp ho ▸ hdevice
  number_ne _ ho _ hp hne :=
    absurd ((List.mem_singleton.mp ho).trans (List.mem_singleton.mp hp).symm) hne
  number_lt _ _ _ hn := h.lt_of_mem_fileOf? hn
  location_ne _ ho _ hp hne :=
    absurd ((List.mem_singleton.mp ho).trans (List.mem_singleton.mp hp).symm) hne

/-- What may have become of a state if nobody has touched outputs. -/
structure LeftAlone (fs : FileSystem) (outputs : List String) (gs : FileSystem) : Prop where
  leadsTo?_eq : ∀ o ∈ outputs, gs.leadsTo? true o = fs.leadsTo? true o
  get?_eq : ∀ o ∈ outputs, ∀ l ∈ fs.leadsTo? true o,
    (gs.root.get? l).map Entry.bare = (fs.root.get? l).map Entry.bare
  contentOf_eq : ∀ o ∈ outputs, ∀ n ∈ fs.fileOf? o, gs.contentOf n = fs.contentOf n
  size_le : fs.stored.size ≤ gs.stored.size

/-- A path leads to a file with that content. -/
def Holds (fs : FileSystem) (path : String) (content : Bytes) : Prop :=
  ∃ number ∈ fs.fileOf? path, fs.contentOf number = content

variable {fs gs hs : FileSystem} {outputs others : List String} {o p : String} {content : Bytes}

theorem Holds.read (h : fs.Holds o content) (hslash : asksForDirectory o = false) :
    fs.read o = .ok content := by
  obtain ⟨number, hfile, rfl⟩ := h
  obtain ⟨location, hleads, hentry⟩ := mem_fileOf?.mp hfile
  have hfound : fs.found? o = some (.file number) := by
    rw [found?, hleads, Option.bind_some, hentry, hslash]
    rfl
  exact read_of_found? hfound

namespace LeftAlone

theorem refl (fs : FileSystem) (outputs : List String) : LeftAlone fs outputs fs where
  leadsTo?_eq _ _ := rfl
  get?_eq _ _ _ _ := rfl
  contentOf_eq _ _ _ _ := rfl
  size_le := Nat.le_refl _

theorem of_subset (h : LeftAlone fs outputs gs) (hsubset : others ⊆ outputs) :
    LeftAlone fs others gs where
  leadsTo?_eq o ho := h.leadsTo?_eq o (hsubset ho)
  get?_eq o ho := h.get?_eq o (hsubset ho)
  contentOf_eq o ho := h.contentOf_eq o (hsubset ho)
  size_le := h.size_le

/-- An output leads to the same file as before, or still to none. -/
theorem fileOf?_eq (h : LeftAlone fs outputs gs) (ho : o ∈ outputs) :
    gs.fileOf? o = fs.fileOf? o := by
  rw [fileOf?, fileOf?, h.leadsTo?_eq o ho]
  cases hl : fs.leadsTo? true o with
  | none => rfl
  | some l => exact Directory.number?_congr (h.get?_eq o ho l hl)

theorem trans (h : LeftAlone fs outputs gs) (hnext : LeftAlone gs outputs hs) :
    LeftAlone fs outputs hs where
  leadsTo?_eq o ho := (hnext.leadsTo?_eq o ho).trans (h.leadsTo?_eq o ho)
  get?_eq o ho l hl :=
    (hnext.get?_eq o ho l (h.leadsTo?_eq o ho ▸ hl)).trans (h.get?_eq o ho l hl)
  contentOf_eq o ho n hn :=
    (hnext.contentOf_eq o ho n (h.fileOf?_eq ho ▸ hn)).trans (h.contentOf_eq o ho n hn)
  size_le := Nat.le_trans h.size_le hnext.size_le

theorem holds (h : LeftAlone fs outputs gs) (ho : o ∈ outputs) (hholds : fs.Holds o content) :
    gs.Holds o content := by
  obtain ⟨number, hfile, hcontent⟩ := hholds
  exact ⟨number, (h.fileOf?_eq ho).symm ▸ hfile, (h.contentOf_eq o ho number hfile).trans hcontent⟩

/-- Outputs that nobody has touched are still kept apart. -/
theorem separate (h : LeftAlone fs outputs gs) (hseparate : Separate fs outputs) :
    Separate gs outputs where
  no_device o ho l hl := by
    rw [h.leadsTo?_eq o ho] at hl
    have hbare := congrArg (Option.any Entry.isDevice) (h.get?_eq o ho l hl)
    simp only [Option.any_map, Entry.isDevice_bare] at hbare
    exact hbare.trans (hseparate.no_device o ho l hl)
  number_ne o ho p hp hne n hn := by
    rw [h.fileOf?_eq ho] at hn
    rw [h.fileOf?_eq hp]
    exact hseparate.number_ne o ho p hp hne n hn
  number_lt o ho n hn :=
    Nat.lt_of_lt_of_le (hseparate.number_lt o ho n (h.fileOf?_eq ho ▸ hn)) h.size_le
  location_ne o ho p hp hne l hl := by
    rw [h.leadsTo?_eq o ho] at hl
    rw [h.leadsTo?_eq p hp]
    exact hseparate.location_ne o ho p hp hne l hl

end LeftAlone

/-! ## Writing an output -/

/-- A path with names leads nowhere from where nothing is. -/
theorem isSome_of_follow {root : Directory} {followsLast : Bool} {links : Nat}
    {here names location : List String} (hnames : names ≠ [])
    (h : (follow root followsLast links here names).toOption.map Prod.fst = some location) :
    (root.get? here).isSome := by
  cases links with
  | zero => cases h
  | succ links =>
      cases names with
      | nil => exact absurd rfl hnames
      | cons name names =>
          rw [follow_succ, walk_cons] at h
          split at h
          · next hgoes =>
            obtain ⟨e, he, -⟩ := (Option.any_eq_true _ _).mp (Bool.and_eq_true_iff.mp hgoes).1
            exact Option.isSome_of_eq_some he
          · cases h

/-- Where a path leads and nothing is, the directory is there. -/
theorem directory_of_leadsTo? {l : List String} (hpieces : Path.pieces o ≠ [])
    (h : fs.leadsTo? true o = some l) (hnone : fs.root.get? l = none) :
    l ≠ [] ∧ fs.root.isDirectoryAt l.dropLast := by
  rw [leadsTo?] at h
  split at h
  · cases h
  · exact directory_of_follow (isSome_of_follow hpieces h) h hnone

/-- A file that is written whole was there, or is made with all of its content. -/
theorem exists_of_write (hslash : asksForDirectory o = false)
    (hdevice : ∀ l ∈ fs.leadsTo? true o, (fs.root.get? l).any Entry.isDevice = false)
    (h : (fs.write o content).2 = .ok ()) :
    (∃ number, number ∈ fs.fileOf? o) ∨
      ∃ l mode, fs.leadsTo? true o = some l ∧ fs.root.get? l = none ∧
        (fs.write o content).1 = fs.addFile l content mode := by
  rw [FileSystem.write, FileSystem.update, withoutSlashes_eq hslash, endsWith_slash, hslash] at h ⊢
  have hoption := resolveBy_toOption true fs o
  rw [← show fs.resolve o = fs.resolveBy true o from rfl] at hoption
  cases hresolve : fs.resolve o with
  | error e =>
      rw [hresolve] at h
      cases h
  | ok target =>
      rw [hresolve] at h hoption
      obtain ⟨l, hl, htarget⟩ := Option.bind_eq_some_iff.mp hoption.symm
      rw [hslash] at htarget
      cases htarget
      have hkeeps := hdevice l hl
      dsimp only at h ⊢
      rw [if_neg Bool.false_ne_true] at h ⊢
      cases hentry : fs.root.get? l with
      | none =>
          rw [hentry] at h
          exact .inr ⟨l, _, hl, hentry, by rw [fst_fit_of_ok h]⟩
      | some e =>
          rw [hentry] at h hkeeps
          cases e with
          | file number => exact .inl ⟨number, mem_fileOf?.mpr ⟨l, hl, hentry⟩⟩
          | device d => cases hkeeps
          | program name | link path | directory mode d => cases h

/-- Writing makes no device. -/
theorem isDevice_update {f : Bytes → Bytes} {l : List String}
    (h : (fs.root.get? l).any Entry.isDevice = false) :
    ((fs.update o f).1.root.get? l).any Entry.isDevice = false := by
  obtain heq | ⟨_, number, -, -, heq⟩ | ⟨made, content, mode, hleads, hnone, heq⟩ :=
    fs.update_cases o f
  · rw [heq]
    exact h
  · rw [heq, root_change]
    exact h
  · rw [heq]
    by_cases hl : l = made
    · subst hl
      obtain hnew | hold := Directory.get?_put_self l (.file fs.stored.size) fs.root
      · rw [addFile, hnew]
        rfl
      · rw [addFile, hold]
        exact h
    · have hbare := congrArg (Option.any Entry.isDevice)
        ((Directory.sameBut_put hnone (e := .file fs.stored.size) rfl).get?_of_ne hl)
      simp only [Option.any_map, Entry.isDevice_bare] at hbare
      exact hbare.symm.trans h

/-- What a path leads to after writing is a file that is there. -/
theorem lt_size_of_mem_fileOf?_update {f : Bytes → Bytes} {n : Nat}
    (hlt : ∀ n ∈ fs.fileOf? p, n < fs.stored.size) (hn : n ∈ (fs.update o f).1.fileOf? p) :
    n < (fs.update o f).1.stored.size := by
  obtain hold | ⟨-, hnew⟩ := mem_fileOf?_of_update hn
  · exact Nat.lt_of_lt_of_le (hlt n hold) (fs.size_le_size_update o f)
  · exact hnew

namespace Separate

variable (h : Separate fs outputs)

include h

/-- Writing an output leaves the others alone. -/
theorem leftAlone_write (ho : o ∈ outputs) (hp : p ∈ outputs) (hslash : asksForDirectory o = false)
    (hne : p ≠ o) (content : Bytes) : LeftAlone fs [p] (fs.write o content).1 := by
  have hwritten : ∀ l ∈ fs.leadsTo? true p, fs.leadsTo? true (Path.withoutSlashes o) ≠ some l := by
    intro l hl
    rw [withoutSlashes_eq hslash]
    exact h.location_ne p hp o ho hne l hl
  refine ⟨fun q _ => leadsTo?_update .., fun q hq l hl => ?_, fun q hq n hn => ?_,
    size_le_size_update ..⟩
  · cases List.mem_singleton.mp hq
    exact get?_update (hwritten l hl)
  · cases List.mem_singleton.mp hq
    refine contentOf_update (h.number_lt p hp n hn) ?_
    rw [withoutSlashes_eq hslash]
    exact h.number_ne p hp o ho hne n hn

/-- **An output that has been written whole holds what was written.** -/
theorem holds_write (ho : o ∈ outputs) (hslash : asksForDirectory o = false)
    (hpieces : Path.pieces o ≠ []) (hok : (fs.write o content).2 = .ok ()) :
    (fs.write o content).1.Holds o content := by
  obtain ⟨number, hfile⟩ | ⟨l, mode, hl, hnone, hmade⟩ :=
    exists_of_write hslash (h.no_device o ho) hok
  · -- the file was there: it has the new content, and its place is the old one
    have hlt := h.number_lt o ho number hfile
    obtain ⟨file, hstore, hcontent⟩ := exists_store_of_write hfile hlt hslash hok
    obtain ⟨l, hl, hentry⟩ := mem_fileOf?.mp hfile
    refine ⟨number, mem_fileOf?.mpr ⟨l, ?_, ?_⟩, ?_⟩
    · rw [FileSystem.write, leadsTo?_update]
      exact hl
    · rw [hstore]
      exact hentry
    · rw [hstore, contentOf, store, Array.getElem?_setIfInBounds_self_of_lt hlt]
      exact hcontent
  · -- the file is new: its directory is there, so the entry has been put into it
    obtain ⟨hne, hdirectory⟩ := directory_of_leadsTo? hpieces hl hnone
    refine ⟨fs.stored.size, mem_fileOf?.mpr ⟨l, ?_, ?_⟩, ?_⟩
    · rw [FileSystem.write, leadsTo?_update]
      exact hl
    · rw [hmade]
      exact Directory.get?_put_of_directory hne hdirectory _
    · rw [hmade, contentOf, addFile, Array.getElem?_push_size]
      rfl

/-- The output that is written and another one are still different files. -/
theorem number_ne_write (ho : o ∈ outputs) (hp : p ∈ outputs) (hslash : asksForDirectory o = false)
    (hne : p ≠ o) {n : Nat} (hn : n ∈ (fs.write o content).1.fileOf? o) :
    n ∉ (fs.write o content).1.fileOf? p := by
  rw [(h.leftAlone_write ho hp hslash hne content).fileOf?_eq (List.mem_singleton.mpr rfl)]
  intro hother
  obtain hold | ⟨rfl, -⟩ := mem_fileOf?_of_update hn
  · exact h.number_ne p hp o ho hne n hother hold
  · exact absurd (h.number_lt p hp _ hother) (Nat.lt_irrefl _)

/-- **Outputs are still kept apart** when one of them has been written. -/
theorem write (ho : o ∈ outputs) (hslash : asksForDirectory o = false) (content : Bytes) :
    Separate (fs.write o content).1 outputs where
  no_device p hp l hl := by
    rw [FileSystem.write, leadsTo?_update] at hl
    exact isDevice_update (h.no_device p hp l hl)
  number_ne p hp q hq hne n hn := by
    by_cases hpo : p = o
    · subst hpo
      exact h.number_ne_write hp hq hslash (Ne.symm hne) hn
    · by_cases hqo : q = o
      · subst hqo
        exact fun hother => h.number_ne_write hq hp hslash hpo hother hn
      · -- neither of the two has been written
        have hleft := fun {r} (hr : r ∈ outputs) (hro : r ≠ o) =>
          (h.leftAlone_write ho hr hslash hro content).fileOf?_eq (List.mem_singleton.mpr rfl)
        rw [hleft hp hpo] at hn
        rw [hleft hq hqo]
        exact h.number_ne p hp q hq hne n hn
  number_lt p hp n hn := lt_size_of_mem_fileOf?_update (h.number_lt p hp) hn
  location_ne p hp q hq hne l hl := by
    rw [FileSystem.write, leadsTo?_update] at hl ⊢
    exact h.location_ne p hp q hq hne l hl

end Separate

end FileSystem

end CallForest
