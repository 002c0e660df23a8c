import CallForest.Proofs.Files.Outputs
import CallForest.Proofs.Files.Scratch
import CallForest.Proofs.Files.WellFormed

/-!
# Files that are rewritten, and files that are added

A file system may differ from another one by the content of some of its files, and by files that
stand at places where nothing was (`Rewritten`). Every path leads where it did, and what is neither
one of these files nor at one of these places reads the same (`Rewritten.read_eq`).

Writing to one of these files or places leaves such a file system (`Rewritten.update`). So does a
scratch copy that is made and removed again (`Scratch.rewritten_of_create`); it can be made on all
such file systems, under the same name (`Scratch.Makes.create_eq`).
-/

namespace CallForest.FileSystem

/-- Nothing is at these places of a well-formed file system. -/
structure Vacant (fs : FileSystem) (places : List (List String)) : Prop where
  wellFormed : fs.WellFormed
  get?_eq : ∀ l ∈ places, fs.root.get? l = none

/-- The files of those numbers may have another content in `gs` than in `fs`. At those places there
may be files, and there may be files that have no name. -/
structure Rewritten (fs : FileSystem) (numbers : List Nat) (places : List (List String))
    (gs : FileSystem) : Prop where
  vacant : fs.Vacant places
  wellFormed : gs.WellFormed
  get?_eq : ∀ l ∉ places, (gs.root.get? l).map Entry.bare = (fs.root.get? l).map Entry.bare
  place_cases : ∀ l ∈ places, gs.root.get? l = none ∨
    ∃ n, gs.root.get? l = some (.file n) ∧ fs.stored.size ≤ n
  workingDirectory_eq : gs.workingDirectory = fs.workingDirectory
  sizeLimit_eq : gs.sizeLimit = fs.sizeLimit
  size_le : fs.stored.size ≤ gs.stored.size
  contentOf_eq : ∀ n < fs.stored.size, n ∉ numbers → gs.contentOf n = fs.contentOf n

/-- A path leads to none of those places, and to no file of those numbers. -/
def Spares (fs : FileSystem) (numbers : List Nat) (places : List (List String)) (path : String) :
    Prop :=
  (∀ l ∈ fs.leadsTo? true path, l ∉ places) ∧ ∀ n ∈ fs.fileOf? path, n ∉ numbers

/-- None of those places is what a path leads to, or below it. -/
def SparesBelow (fs : FileSystem) (places : List (List String)) (path : String) : Prop :=
  ∀ l ∈ fs.leadsTo? true path, ∀ p ∈ places, ¬l <+: p

/-- A path leads to one of those places, or to a file of one of those numbers. -/
structure LeadsInto (fs : FileSystem) (numbers : List Nat) (places : List (List String))
    (path : String) : Prop where
  slash : asksForDirectory path = false
  target : (∃ l ∈ places, l ∈ fs.leadsTo? true path) ∨ ∃ n ∈ numbers, n ∈ fs.fileOf? path

instance (fs : FileSystem) (places : List (List String)) : Decidable (fs.Vacant places) :=
  decidable_of_iff (fs.WellFormed ∧ ∀ l ∈ places, fs.root.get? l = none)
    ⟨fun h => ⟨h.1, h.2⟩, fun h => ⟨h.wellFormed, h.get?_eq⟩⟩

instance (fs : FileSystem) (numbers : List Nat) (places : List (List String)) (path : String) :
    Decidable (fs.Spares numbers places path) :=
  inferInstanceAs (Decidable ((∀ l ∈ fs.leadsTo? true path, l ∉ places) ∧
    ∀ n ∈ fs.fileOf? path, n ∉ numbers))

instance (fs : FileSystem) (places : List (List String)) (path : String) :
    Decidable (fs.SparesBelow places path) :=
  inferInstanceAs (Decidable (∀ l ∈ fs.leadsTo? true path, ∀ p ∈ places, ¬l <+: p))

instance (fs : FileSystem) (numbers : List Nat) (places : List (List String)) (path : String) :
    Decidable (fs.LeadsInto numbers places path) :=
  decidable_of_iff (asksForDirectory path = false ∧
      ((∃ l ∈ places, l ∈ fs.leadsTo? true path) ∨ ∃ n ∈ numbers, n ∈ fs.fileOf? path))
    ⟨fun h => ⟨h.1, h.2⟩, fun h => ⟨h.slash, h.target⟩⟩

theorem WellFormed.vacant_nil {fs : FileSystem} (h : fs.WellFormed) : fs.Vacant [] :=
  ⟨h, fun _ hl => absurd hl List.not_mem_nil⟩

namespace Rewritten

variable {fs gs hs : FileSystem} {numbers : List Nat} {places : List (List String)} {path : String}

theorem refl (h : fs.Vacant places) (numbers : List Nat) : Rewritten fs numbers places fs where
  vacant := h
  wellFormed := h.wellFormed
  get?_eq _ _ := rfl
  place_cases l hl := .inl (h.get?_eq l hl)
  workingDirectory_eq := rfl
  sizeLimit_eq := rfl
  size_le := Nat.le_refl _
  contentOf_eq _ _ _ := rfl

theorem trans (h : Rewritten fs numbers places gs) (hnext : Rewritten gs [] [] hs) :
    Rewritten fs numbers places hs where
  vacant := h.vacant
  wellFormed := hnext.wellFormed
  get?_eq l hl := (hnext.get?_eq l List.not_mem_nil).trans (h.get?_eq l hl)
  place_cases l hl := by
    have hsame := hnext.get?_eq l List.not_mem_nil
    obtain hnone | ⟨n, hfile, hle⟩ := h.place_cases l hl
    · rw [hnone] at hsame
      exact .inl (Option.map_eq_none_iff.mp hsame)
    · exact .inr ⟨n, Directory.get?_of_bare hsame hfile rfl, hle⟩
  workingDirectory_eq := hnext.workingDirectory_eq.trans h.workingDirectory_eq
  sizeLimit_eq := hnext.sizeLimit_eq.trans h.sizeLimit_eq
  size_le := Nat.le_trans h.size_le hnext.size_le
  contentOf_eq n hn hnot :=
    (hnext.contentOf_eq n (Nat.lt_of_lt_of_le hn h.size_le) List.not_mem_nil).trans
      (h.contentOf_eq n hn hnot)

/-! ## Where paths lead -/

/-- Files that are added lead nowhere. -/
theorem alike (h : Rewritten fs numbers places gs) : Directory.Alike fs.root gs.root := by
  have hplace : ∀ l ∈ places, gs.root.isDirectoryAt l = false ∧ gs.root.linkAt? l = none := by
    intro l hl
    rw [Directory.isDirectoryAt, Directory.linkAt?]
    obtain hnone | ⟨n, hfile, -⟩ := h.place_cases l hl
    · rw [hnone]
      exact ⟨rfl, rfl⟩
    · rw [hfile]
      exact ⟨rfl, rfl⟩
  constructor
  · intro l
    by_cases hl : l ∈ places
    · rw [(hplace l hl).1, Directory.isDirectoryAt, h.vacant.get?_eq l hl]
      rfl
    · exact (Directory.isDirectoryAt_congr (h.get?_eq l hl)).symm
  · intro l
    by_cases hl : l ∈ places
    · rw [(hplace l hl).2, Directory.linkAt?, h.vacant.get?_eq l hl]
      rfl
    · exact (Directory.linkAt?_congr (h.get?_eq l hl)).symm

theorem leadsTo?_eq (h : Rewritten fs numbers places gs) (followsLast : Bool) (path : String) :
    gs.leadsTo? followsLast path = fs.leadsTo? followsLast path :=
  (leadsTo?_of_alike h.alike h.workingDirectory_eq.symm followsLast path).symm

theorem isDirectory_eq (h : Rewritten fs numbers places gs) (path : String) :
    gs.isDirectory path = fs.isDirectory path := by
  rw [FileSystem.isDirectory_eq, FileSystem.isDirectory_eq, h.leadsTo?_eq,
    funext h.alike.isDirectoryAt_eq]

/-- What was at a place is still there, apart from what directories hold. -/
theorem exists_get? (h : Rewritten fs numbers places gs) {l : List String} {e : Entry}
    (hget : fs.root.get? l = some e) : ∃ e', gs.root.get? l = some e' ∧ e'.bare = e.bare := by
  have hl : l ∉ places := fun hl => by
    rw [h.vacant.get?_eq l hl] at hget
    cases hget
  have hsame := h.get?_eq l hl
  rw [hget] at hsame
  exact Option.map_eq_some_iff.mp hsame

theorem get?_file (h : Rewritten fs numbers places gs) {l : List String} {n : Nat}
    (hget : fs.root.get? l = some (.file n)) : gs.root.get? l = some (.file n) := by
  obtain ⟨e, he, hbare⟩ := h.exists_get? hget
  rw [he, Entry.eq_of_bare_eq hbare rfl]

/-- A path that leads to a file still does. -/
theorem mem_fileOf?_of_mem (h : Rewritten fs numbers places gs) {n : Nat}
    (hfile : n ∈ fs.fileOf? path) : n ∈ gs.fileOf? path := by
  obtain ⟨l, hleads, hget⟩ := FileSystem.mem_fileOf?.mp hfile
  exact FileSystem.mem_fileOf?.mpr ⟨l, (h.leadsTo?_eq true path).trans hleads, h.get?_file hget⟩

/-- A path that does not lead to a file leads to a new one at most. -/
theorem not_mem_fileOf? (h : Rewritten fs numbers places gs) {n : Nat} (hn : n < fs.stored.size)
    (hfile : n ∉ fs.fileOf? path) : n ∉ gs.fileOf? path := by
  intro hmem
  obtain ⟨l, hleads, hget⟩ := FileSystem.mem_fileOf?.mp hmem
  by_cases hl : l ∈ places
  · obtain hnone | ⟨m, hnew, hle⟩ := h.place_cases l hl
    · rw [hnone] at hget
      cases hget
    · cases hnew.symm.trans hget
      exact absurd hle (Nat.not_le_of_lt hn)
  · refine hfile (FileSystem.mem_fileOf?.mpr ⟨l, (h.leadsTo?_eq true path).symm.trans hleads, ?_⟩)
    exact Directory.get?_of_bare (h.get?_eq l hl).symm hget rfl

/-- Whatever has a name still has it. -/
theorem isOk_named (h : Rewritten fs numbers places gs) (hnamed : (fs.named path).isOk) :
    (gs.named path).isOk := by
  obtain ⟨l, e, hleads, hget, hslash⟩ := isOk_named_iff.mp hnamed
  obtain ⟨e', hget', hbare⟩ := h.exists_get? hget
  refine isOk_named_iff.mpr ⟨l, e', (h.leadsTo?_eq false path).trans hleads, hget', ?_⟩
  rw [← Entry.isDirectory_bare, hbare, Entry.isDirectory_bare]
  exact hslash

/-! ## What is spared -/

section Spares

variable (h : Rewritten fs numbers places gs) (hspares : fs.Spares numbers places path)

include h hspares

theorem exists?_eq : gs.exists? path = fs.exists? path :=
  exists?_congr (h.leadsTo?_eq true path) fun l hl => h.get?_eq l (hspares.1 l hl)

theorem isFile_eq : gs.isFile path = fs.isFile path :=
  isFile_congr (h.leadsTo?_eq true path) fun l hl => h.get?_eq l (hspares.1 l hl)

/-- **What is spared reads as it did.** -/
theorem read_eq : (gs.read path).toOption = (fs.read path).toOption :=
  read_congr (h.leadsTo?_eq true path) (fun l hl => h.get?_eq l (hspares.1 l hl)) fun n hn =>
    h.contentOf_eq n (h.vacant.wellFormed.lt_of_mem_fileOf? hn) (hspares.2 n hn)

end Spares

theorem read_ok (h : Rewritten fs numbers places gs) (hspares : fs.Spares numbers places path)
    {text : Bytes} (hread : fs.read path = .ok text) : gs.read path = .ok text :=
  eq_ok_of_toOption ((h.read_eq hspares).trans (congrArg Except.toOption hread))

theorem readText_eq (h : Rewritten fs numbers places gs) (hspares : fs.Spares numbers places path) :
    (gs.readText path).toOption = (fs.readText path).toOption := by
  rw [readText, readText, toOption_bind, toOption_bind, h.read_eq hspares]

/-- What a directory holds is the same, if nothing is added below it. -/
theorem readDirectory_eq (h : Rewritten fs numbers places gs)
    (hspares : fs.SparesBelow places path) :
    (gs.readDirectory path).toOption = (fs.readDirectory path).toOption := by
  rw [readDirectory_toOption, readDirectory_toOption, h.leadsTo?_eq]
  cases hleads : fs.leadsTo? true path with
  | none => rfl
  | some l =>
      have hsame := h.get?_eq l fun hl => hspares l hleads l hl (List.prefix_refl l)
      rw [Option.bind_some, Option.bind_some]
      cases hget : fs.root.get? l with
      | none =>
          rw [hget] at hsame
          rw [Option.map_eq_none_iff.mp hsame]
      | some e =>
          rw [hget] at hsame
          obtain ⟨e', hget', hbare⟩ := Option.map_eq_some_iff.mp hsame
          rw [hget', Option.bind_some, Option.bind_some]
          -- there is the same at every location below
          have hordered := h.vacant.wellFormed.ordered.of_get? hget
          have hordered' := h.wellFormed.ordered.of_get? hget'
          refine congrArg Entry.held? (hordered'.ext hordered fun names => ?_)
          have hbelow := h.get?_eq (l ++ names) fun hmem =>
            hspares l hleads _ hmem (List.prefix_append l names)
          rwa [Directory.get?_append, hget', Directory.get?_append, hget] at hbelow

/-- A directory lists the same names, if nothing is added in it. -/
theorem names_eq (h : Rewritten fs numbers places gs)
    (hspares : ∀ l ∈ fs.leadsTo? true path, ∀ p ∈ places, p.dropLast ≠ l) :
    (gs.readDirectory path).toOption.map Directory.names =
      (fs.readDirectory path).toOption.map Directory.names := by
  rw [readDirectory_toOption, readDirectory_toOption, h.leadsTo?_eq]
  cases hleads : fs.leadsTo? true path with
  | none => rfl
  | some l =>
      rw [Option.bind_some, Option.bind_some]
      have hplace := h.alike.isDirectoryAt_eq l
      cases hdirectory : fs.root.isDirectoryAt l with
      | false =>
          have hnone : ∀ {d : Directory}, d.isDirectoryAt l = false →
              (d.get? l).bind Entry.held? = none := by
            intro d hd
            rw [Directory.isDirectoryAt] at hd
            cases hget : d.get? l with
            | none => rfl
            | some e =>
                rw [hget] at hd
                cases e <;> first | rfl | cases hd
          rw [hnone hdirectory, hnone (hplace ▸ hdirectory)]
      | true =>
          obtain ⟨mode, d, hd⟩ := Directory.exists_of_isDirectoryAt hdirectory
          obtain ⟨mode', d', hd'⟩ := Directory.exists_of_isDirectoryAt (hplace ▸ hdirectory)
          have hordered : (Entry.directory mode d).Ordered :=
            h.vacant.wellFormed.ordered.of_get? hd
          have hordered' : (Entry.directory mode' d').Ordered := h.wellFormed.ordered.of_get? hd'
          rw [hd, hd']
          refine congrArg some (Directory.Ordered.names_eq hordered' hordered fun name => ?_)
          have hbelow := congrArg Option.isSome (h.get?_eq (l ++ [name]) fun hmem =>
            hspares l hleads _ hmem (List.dropLast_concat ..))
          rw [Option.isSome_map, Option.isSome_map, ← Directory.find?_eq_get? hd,
            ← Directory.find?_eq_get? hd'] at hbelow
          rw [← Directory.isSome_find?, ← Directory.isSome_find?, hbelow]

/-! ## Writing -/

/-- What a path leads to that leads into the files and places. -/
theorem target_cases (h : Rewritten fs numbers places gs)
    (hinto : fs.LeadsInto numbers places path) :
    ∃ l, gs.leadsTo? true path = some l ∧
      ((l ∈ places ∧ gs.root.get? l = none) ∨
        ∃ n, gs.root.get? l = some (.file n) ∧ (n < fs.stored.size → n ∈ numbers)) := by
  obtain ⟨l, hplace, hleads⟩ | ⟨n, hn, hfile⟩ := hinto.target
  · refine ⟨l, (h.leadsTo?_eq true path).trans hleads, ?_⟩
    obtain hnone | ⟨n, hfile, hle⟩ := h.place_cases l hplace
    · exact .inl ⟨hplace, hnone⟩
    · exact .inr ⟨n, hfile, fun hlt => absurd hle (Nat.not_le_of_lt hlt)⟩
  · obtain ⟨l, hleads, hget⟩ := mem_fileOf?.mp hfile
    exact ⟨l, (h.leadsTo?_eq true path).trans hleads, .inr ⟨n, h.get?_file hget, fun _ => hn⟩⟩

/-- **Writing to one of the files or places** leaves such a file system. -/
theorem update (h : Rewritten fs numbers places gs) (hinto : fs.LeadsInto numbers places path)
    (f : Bytes → Bytes) : Rewritten fs numbers places (gs.update path f).1 := by
  have hwellFormed := h.wellFormed.update path f
  obtain ⟨l, hleads, htarget⟩ := h.target_cases hinto
  obtain heq | ⟨l', n, hleads', hfile, heq⟩ | ⟨l', content, mode, hleads', hnone, heq⟩ :=
    gs.update_cases path f
  · rw [heq]
    exact h
  · -- a file that is there has another content
    rw [withoutSlashes_eq hinto.slash, hleads] at hleads'
    cases hleads'
    rw [heq] at hwellFormed ⊢
    obtain hsame | ⟨file, hstore⟩ := gs.change_cases n f
    · rw [hsame]
      exact h
    · rw [hstore] at hwellFormed ⊢
      refine { h with
        wellFormed := hwellFormed
        size_le := ?_
        contentOf_eq := fun m hm hnot => ?_ }
      · rw [store, Array.size_setIfInBounds]
        exact h.size_le
      · have hne : m ≠ n := by
          rintro rfl
          obtain ⟨-, hfree⟩ | ⟨m', hfile', hnumbers⟩ := htarget
          · rw [hfree] at hfile
            cases hfile
          · cases hfile'.symm.trans hfile
            exact hnot (hnumbers hm)
        rw [gs.contentOf_store_of_ne hne, h.contentOf_eq m hm hnot]
  · -- a file is added at a place
    rw [withoutSlashes_eq hinto.slash, hleads] at hleads'
    cases hleads'
    have hplace : l ∈ places := by
      obtain ⟨hplace, -⟩ | ⟨n, hfile, -⟩ := htarget
      · exact hplace
      · rw [hnone] at hfile
        cases hfile
    rw [heq] at hwellFormed ⊢
    have hsame : Directory.SameBut l gs.root (gs.addFile l content mode).root :=
      Directory.sameBut_put hnone rfl
    refine { h with
      wellFormed := hwellFormed
      get?_eq := fun l' hl' => ?_
      place_cases := fun l' hl' => ?_
      size_le := ?_
      contentOf_eq := fun n hn hnot => ?_ }
    · have hne : l' ≠ l := fun heq => hl' (heq ▸ hplace)
      exact (hsame.get?_of_ne hne).symm.trans (h.get?_eq l' hl')
    · by_cases hl : l' = l
      · subst hl
        obtain hnew | hold := Directory.get?_put_self l' (.file gs.stored.size) gs.root
        · exact .inr ⟨_, hnew, h.size_le⟩
        · exact .inl (hold.trans hnone)
      · have hbare := (hsame.get?_of_ne hl).symm
        obtain hfree | ⟨n, hfile, hle⟩ := h.place_cases l' hl'
        · rw [hfree] at hbare
          exact .inl (Option.map_eq_none_iff.mp hbare)
        · exact .inr ⟨n, Directory.get?_of_bare hbare hfile rfl, hle⟩
    · rw [addFile, Array.size_push]
      exact Nat.le_succ_of_le h.size_le
    · rw [gs.contentOf_addFile (Nat.lt_of_lt_of_le hn h.size_le), h.contentOf_eq n hn hnot]

theorem write (h : Rewritten fs numbers places gs) (hinto : fs.LeadsInto numbers places path)
    (text : Bytes) : Rewritten fs numbers places (gs.write path text).1 :=
  h.update hinto fun _ => text

theorem append (h : Rewritten fs numbers places gs) (hinto : fs.LeadsInto numbers places path)
    (text : Bytes) : Rewritten fs numbers places (gs.append path text).1 :=
  h.update hinto fun old => old ++ text

/-- They can be written whole if no file may be too large. -/
theorem result_write (h : Rewritten fs numbers places gs)
    (hinto : fs.LeadsInto numbers places path) (hlimit : fs.sizeLimit = none) (text : Bytes) :
    (gs.write path text).2 = .ok () := by
  have hlimit' : gs.sizeLimit = none := h.sizeLimit_eq.trans hlimit
  obtain ⟨l, hleads, ⟨-, hnone⟩ | ⟨n, hfile, -⟩⟩ := h.target_cases hinto
  · rw [FileSystem.write, FileSystem.update, withoutSlashes_eq hinto.slash, resolve,
      resolveBy_of_leadsTo? hleads hinto.slash, hnone, endsWith_slash, hinto.slash]
    dsimp only
    rw [if_neg Bool.false_ne_true, fit, hlimit']
  · exact FileSystem.result_write (mem_fileOf?.mpr ⟨l, hleads, hfile⟩) hinto.slash hlimit' text

/-- What has been written whole is read back. -/
theorem read_write (h : Rewritten fs numbers places gs)
    (hinto : fs.LeadsInto numbers places path) (hlimit : fs.sizeLimit = none)
    (hpieces : Path.pieces path ≠ []) (text : Bytes) :
    (gs.write path text).1.read path = .ok text := by
  obtain ⟨l, hleads, htarget⟩ := h.target_cases hinto
  have hdevice : ∀ l ∈ gs.leadsTo? true path, (gs.root.get? l).any Entry.isDevice = false := by
    intro l' hl'
    cases Option.mem_unique hl' hleads
    obtain ⟨-, hnone⟩ | ⟨n, hfile, -⟩ := htarget
    · rw [hnone]
      rfl
    · rw [hfile]
      rfl
  have hseparate := h.wellFormed.separate_singleton hdevice
  exact (hseparate.holds_write List.mem_cons_self hinto.slash hpieces
    (h.result_write hinto hlimit text)).read hinto.slash

/-- Where no file is rewritten or added, paths are left alone. -/
theorem leftAlone (h : Rewritten fs [] [] gs) (paths : List String) : LeftAlone fs paths gs where
  leadsTo?_eq o _ := h.leadsTo?_eq true o
  get?_eq _ _ l _ := h.get?_eq l List.not_mem_nil
  contentOf_eq _ _ n hn :=
    h.contentOf_eq n (h.vacant.wellFormed.lt_of_mem_fileOf? hn) List.not_mem_nil
  size_le := h.size_le

end Rewritten

/-- A directory that is there is not made. -/
theorem createDirectories_of_there {fs : FileSystem} {path : String}
    (hnamed : (fs.named (Path.withoutSlashes path)).isOk) (hdirectory : fs.isDirectory path) :
    fs.createDirectories path = (fs, .ok ()) := by
  have hthere : fs.createDirectory path = (fs, .error .fileExists) := by
    rw [named] at hnamed
    rw [createDirectory]
    cases hlocate : fs.locate (Path.withoutSlashes path) with
    | error e =>
        rw [hlocate] at hnamed
        cases hnamed
    | ok target =>
        rw [hlocate] at hnamed
        dsimp only
        cases hentry : target.entry with
        | none =>
            rw [show (Except.ok target >>= Target.found) = target.found from rfl, Target.found,
              hentry] at hnamed
            cases hnamed
        | some e => rfl
  have hfirst : ∃ above, Path.ancestors path = path :: above := by
    rw [Path.ancestors, Path.ancestorsFrom]
    split
    · exact ⟨_, rfl⟩
    · exact ⟨[], rfl⟩
  obtain ⟨above, habove⟩ := hfirst
  rw [createDirectories, habove, createAlong, hthere]
  dsimp only
  rw [if_pos hdirectory]
  split <;> rfl

end FileSystem

/-! ## Scratch copies -/

namespace Scratch

open FileSystem (Rewritten)

variable {fs gs left : FileSystem} {numbers : List Nat} {places : List (List String)}
  {source directory copy : String} {prelude : Option String} {text : Bytes}

/-- A file that is made, changed and removed has left nothing but a file without a name. -/
theorem rewritten_of_createFile (hfs : fs.WellFormed) (habsolute : Path.isAbsolute copy)
    {mode : Mode} (hok : (fs.createFile copy mode).2 = .ok ()) (f : Bytes → Bytes) :
    Rewritten fs [] [] (((fs.createFile copy mode).1.update copy f).1.removeFile copy).1 := by
  have hfile := FileSystem.mem_fileOf?_createFile habsolute hok
  have hsize := FileSystem.size_createFile hok
  have hmadeWell := hfs.createFile copy mode
  obtain ⟨l, allowed, hleads, hnone, hslash, heq⟩ := FileSystem.exists_of_createFile hok
  generalize (fs.createFile copy mode).1 = made at hfile hsize hmadeWell heq ⊢
  -- writing to the copy changes nothing but the copy
  have hleft : Rewritten made [fs.stored.size] [] (made.update copy f).1 :=
    (Rewritten.refl hmadeWell.vacant_nil _).update
      ⟨hslash, .inr ⟨_, List.mem_singleton.mpr rfl, hfile⟩⟩ f
  generalize (made.update copy f).1 = left at hleft ⊢
  have hmadeSame : Directory.SameBut l fs.root made.root := by
    rw [heq]
    exact Directory.sameBut_put hnone rfl
  have hworking : fs.workingDirectory = made.workingDirectory := by
    rw [heq]
    rfl
  have hmadeLeads : made.leadsTo? false copy = some l :=
    (FileSystem.leadsTo?_of_alike hmadeSame.alike hworking false copy).symm.trans hleads
  have hentry : left.root.get? l = some (.file fs.stored.size) := by
    obtain ⟨l', hleads', hget⟩ := FileSystem.mem_fileOf?.mp hfile
    have hlink := (Directory.SameBut.leadsNowhere_of_leaf hmadeSame.leaf_right).2
    cases (FileSystem.leadsTo?_true_of_false hmadeLeads hlink).symm.trans hleads'
    exact hleft.get?_file hget
  -- the copy is gone, and with it all that had been added to the tree
  have hgone : (left.root.remove l).get? l = none :=
    hleft.wellFormed.ordered.get?_remove_self fun hroot => by
      rw [hroot] at hentry
      cases hentry
  have hdropped : Directory.SameBut l left.root (left.drop l).root := by
    refine Directory.sameBut_remove (fun e he => ?_) hgone
    rw [hentry] at he
    cases he
    rfl
  rw [FileSystem.removeFile_eq ((hleft.leadsTo?_eq false copy).trans hmadeLeads) hentry hslash]
  refine ⟨hfs.vacant_nil, hleft.wellFormed.drop l, fun l' _ => ?_,
    fun _ hl => absurd hl List.not_mem_nil, ?_, ?_, ?_, fun n hn _ => ?_⟩
  · by_cases hl : l' = l
    · rw [hl, hnone, FileSystem.drop, hgone]
    · exact (hdropped.get?_of_ne hl).symm.trans
        ((hleft.get?_eq l' List.not_mem_nil).trans (hmadeSame.get?_of_ne hl).symm)
  · exact hleft.workingDirectory_eq.trans hworking.symm
  · refine hleft.sizeLimit_eq.trans ?_
    rw [heq]
    rfl
  · exact Nat.le_trans (Nat.le_of_lt (hsize ▸ Nat.lt_succ_self _)) hleft.size_le
  · have hne : n ∉ [fs.stored.size] := fun hmem =>
      Nat.lt_irrefl _ (List.mem_singleton.mp hmem ▸ hn)
    show left.contentOf n = fs.contentOf n
    rw [hleft.contentOf_eq n (by omega) hne, heq, fs.contentOf_addFile hn]

/-- A copy that is removed has left nothing. -/
theorem rewritten_of_create (hfs : fs.WellFormed)
    (h : create fs source directory prelude = (left, .ok copy)) :
    Rewritten fs [] [] (left.removeFile copy).1 := by
  obtain ⟨text, made, -, hcopy, hmade, hwritten⟩ := exists_of_create h
  have hleft := rewritten_of_createFile hfs (hcopy ▸ isAbsolute_path fs directory source)
    (congrArg Prod.snd hmade) fun _ => content prelude text
  rw [hmade, show made.update copy (fun _ => content prelude text) = (left, .ok ()) from hwritten]
    at hleft
  exact hleft

/-- Neither has one that could not be made. -/
theorem rewritten_of_create_error (hfs : fs.WellFormed) {e : CollaboratorError}
    (h : create fs source directory prelude = (left, .error e)) : Rewritten fs [] [] left := by
  have hrefl : Rewritten fs [] [] fs := .refl hfs.vacant_nil []
  rw [create] at h
  cases hread : fs.read source with
  | error cause =>
      rw [hread] at h
      cases h
      exact hrefl
  | ok text =>
      rw [hread] at h
      dsimp only at h
      cases hmade : fs.createFile (path fs directory source) Mode.ofPrivateFile with
      | mk made result =>
          rw [hmade] at h
          cases result with
          | error cause =>
              have hsame := FileSystem.fst_createFile_of_error (congrArg Prod.snd hmade)
              rw [hmade] at hsame
              cases (Prod.mk.inj h).1
              exact hsame ▸ hrefl
          | ok _ =>
              have hleft := rewritten_of_createFile hfs (isAbsolute_path fs directory source)
                (congrArg Prod.snd hmade) fun _ => content prelude text
              rw [hmade] at hleft
              dsimp only at h
              cases hwritten : made.write (path fs directory source) (content prelude text) with
              | mk written result =>
                  rw [hwritten] at h
                  cases result with
                  | ok _ => cases (Prod.mk.inj h).2
                  | error cause =>
                      rw [show made.update _ (fun _ => content prelude text) = (written, _) from
                        hwritten] at hleft
                      cases (Prod.mk.inj h).1
                      exact hleft

/-- A copy of a source can be made where nothing is, and nothing is added in the directory of the
copies. -/
structure Makes (fs : FileSystem) (places : List (List String)) (directory source : String) :
    Prop where
  free : ∃ l, fs.leadsTo? false (path fs directory source) = some l ∧ fs.root.get? l = none ∧
    l ∉ places
  slash : FileSystem.asksForDirectory (path fs directory source) = false
  spares : ∀ l ∈ fs.leadsTo? true directory, ∀ p ∈ places, p.dropLast ≠ l

instance (fs : FileSystem) (places : List (List String)) (directory source : String) :
    Decidable (Makes fs places directory source) :=
  decidable_of_iff
    ((fs.leadsTo? false (path fs directory source)).any (fun l =>
        decide (fs.root.get? l = none ∧ l ∉ places)) ∧
      FileSystem.asksForDirectory (path fs directory source) = false ∧
      ∀ l ∈ fs.leadsTo? true directory, ∀ p ∈ places, p.dropLast ≠ l) <| by
    rw [Option.any_eq_true]
    simp only [decide_eq_true_eq]
    exact ⟨fun h => ⟨h.1, h.2.1, h.2.2⟩, fun h => ⟨h.free, h.slash, h.spares⟩⟩

/-- The name of a copy depends on nothing but the names in the directory of the copies. -/
theorem path_eq (h : Rewritten fs numbers places gs)
    (hspares : ∀ l ∈ fs.leadsTo? true directory, ∀ p ∈ places, p.dropLast ≠ l) (source : String) :
    path gs directory source = path fs directory source := by
  have hnames := h.names_eq hspares
  rw [path, path, FileSystem.absolute, FileSystem.absolute, h.workingDirectory_eq]
  cases hgs : gs.readDirectory directory with
  | error e =>
      cases hfs : fs.readDirectory directory with
      | error e' => rfl
      | ok d =>
          rw [hgs, hfs] at hnames
          cases hnames
  | ok d' =>
      cases hfs : fs.readDirectory directory with
      | error e =>
          rw [hgs, hfs] at hnames
          cases hnames
      | ok d =>
          rw [hgs, hfs] at hnames
          dsimp only
          rw [Option.some.inj hnames]

/-- **A copy can be made on all such file systems, under the same name.** -/
theorem Makes.create_eq (hmakes : Makes fs places directory source)
    (h : Rewritten fs numbers places gs) (hlimit : fs.sizeLimit = none)
    (hread : gs.read source = .ok text) (prelude : Option String) :
    (create gs source directory prelude).2 = .ok (path fs directory source) := by
  obtain ⟨l, hleads, hnone, hplace⟩ := hmakes.free
  have hpath := path_eq h hmakes.spares source
  have hnone' : gs.root.get? l = none := by
    have hsame := h.get?_eq l hplace
    rw [hnone] at hsame
    exact Option.map_eq_none_iff.mp hsame
  have hok := FileSystem.result_createFile ((h.leadsTo?_eq false _).trans hleads) hnone'
    hmakes.slash Mode.ofPrivateFile
  have hfile := FileSystem.mem_fileOf?_createFile (isAbsolute_path fs directory source) hok
  obtain ⟨_, _, -, -, -, heq⟩ := FileSystem.exists_of_createFile hok
  rw [create, hread, hpath]
  dsimp only
  generalize gs.createFile (path fs directory source) Mode.ofPrivateFile = made at hok hfile heq
  obtain ⟨made, _⟩ := made
  cases hok
  dsimp only at hfile heq ⊢
  have hmade : made.sizeLimit = none := by
    rw [heq]
    exact h.sizeLimit_eq.trans hlimit
  have hwritten := FileSystem.result_write hfile hmakes.slash hmade (content prelude text)
  generalize made.write (path fs directory source) (content prelude text) = written at hwritten
  obtain ⟨written, _⟩ := written
  cases hwritten
  rfl

end Scratch

end CallForest
