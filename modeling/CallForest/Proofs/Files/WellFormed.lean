import CallForest.Proofs.Files.Entries
import CallForest.Proofs.Files.Writing

/-!
# Well-formed file systems

A file system is well-formed if its tree is ordered and every file that the tree names is stored.
Files and directories keep it so, however they are made, written and removed
(`WellFormed.update`, `WellFormed.createFile`, `WellFormed.removeFile`,
`WellFormed.createDirectories`). So whatever is reached from a well-formed file system by these is
one, and no file that a path leads to is missing (`WellFormed.lt_of_mem_fileOf?`).
-/

namespace CallForest.FileSystem

/-- The names in directories are in order, and files that have a name are stored. -/
structure WellFormed (fs : FileSystem) : Prop where
  ordered : fs.root.Ordered
  number_lt : ∀ location number, fs.root.get? location = some (.file number) →
    number < fs.stored.size

/-- Whether a file system is well-formed is found out from its entries. -/
theorem wellFormed_iff {fs : FileSystem} : fs.WellFormed ↔ fs.root.Ordered ∧
    ∀ found ∈ fs.root.entries [], ∀ number ∈ found.2.number?, number < fs.stored.size := by
  constructor
  · rintro ⟨hordered, hlt⟩
    refine ⟨hordered, fun ⟨location, e⟩ hfound number hnumber => ?_⟩
    cases e with
    | file n =>
        cases hnumber
        have hbelow := hordered.mem_entries.mp hfound
        cases location with
        | nil => cases hbelow
        | cons name names => exact hlt (name :: names) number hbelow
    | device d | program name | link path | directory mode d => cases hnumber
  · rintro ⟨hordered, hlt⟩
    refine ⟨hordered, fun location number hget => ?_⟩
    cases location with
    | nil => cases hget
    | cons name names =>
        exact hlt (name :: names, .file number) (hordered.mem_entries.mpr hget) number rfl

instance (fs : FileSystem) : Decidable fs.WellFormed :=
  decidable_of_iff _ wellFormed_iff.symm

/-! ## What can be done to a tree -/

variable {fs : FileSystem} {path : String}

/-- If no file can be made, nothing is changed. -/
theorem fst_createFile_of_error {mode : Mode} {e : OsError}
    (h : (fs.createFile path mode).2 = .error e) : (fs.createFile path mode).1 = fs := by
  rw [createFile] at h ⊢
  split
  · rfl
  · next heq =>
    rw [heq] at h
    dsimp only at h
    split
    · rfl
    · next hfree =>
      rw [if_neg hfree] at h
      split
      · rfl
      · next hslash =>
        rw [if_neg hslash] at h
        cases h

theorem removeFile_cases (fs : FileSystem) (path : String) :
    (fs.removeFile path).1 = fs ∨ ∃ location, (fs.removeFile path).1 = fs.drop location := by
  rw [removeFile]
  split
  · exact .inl rfl
  · split
    · exact .inl rfl
    · exact .inl rfl
    all_goals
      split
      · exact .inl rfl
      · exact .inr ⟨_, rfl⟩

/-- A file that a path names is removed from where it stands. -/
theorem removeFile_eq {location : List String} {number : Nat}
    (hleads : fs.leadsTo? false path = some location)
    (hentry : fs.root.get? location = some (.file number))
    (hslash : asksForDirectory path = false) :
    fs.removeFile path = (fs.drop location, .ok ()) := by
  rw [removeFile, withoutSlashes_eq hslash, locate, resolveBy_of_leadsTo? hleads hslash, hentry,
    endsWith_slash, hslash]
  rfl

theorem createDirectory_cases (fs : FileSystem) (path : String) :
    (fs.createDirectory path).1 = fs ∨
      ∃ location mode, (fs.createDirectory path).1 = fs.set location (.directory mode .nil) := by
  rw [createDirectory]
  split
  · exact .inl rfl
  · split
    · exact .inl rfl
    · exact .inr ⟨_, _, rfl⟩

namespace WellFormed

/-- A path leads to no file that is not stored. -/
theorem lt_of_mem_fileOf? (h : fs.WellFormed) {number : Nat} (hfile : number ∈ fs.fileOf? path) :
    number < fs.stored.size := by
  obtain ⟨location, -, hentry⟩ := mem_fileOf?.mp hfile
  exact h.number_lt location number hentry

theorem store (h : fs.WellFormed) (number : Nat) (file : StoredFile) :
    (fs.store number file).WellFormed where
  ordered := h.ordered
  number_lt location n hentry := by
    rw [FileSystem.store, Array.size_setIfInBounds]
    exact h.number_lt location n hentry

theorem addFile (h : fs.WellFormed) (location : List String) (content : Bytes) (mode : Mode) :
    (fs.addFile location content mode).WellFormed where
  ordered := h.ordered.put (e := .file _) trivial location
  number_lt l n hentry := by
    rw [FileSystem.addFile, Array.size_push]
    obtain hold | ⟨-, hnew⟩ := Directory.get?_file_of_put (fun _ _ => rfl) hentry
    · exact Nat.lt_succ_of_lt (h.number_lt l n hold)
    · cases hnew
      exact Nat.lt_succ_self _

theorem drop (h : fs.WellFormed) (location : List String) : (fs.drop location).WellFormed where
  ordered := h.ordered.remove location
  number_lt l n hentry := h.number_lt l n (h.ordered.get?_file_of_remove hentry)

theorem setDirectory (h : fs.WellFormed) (location : List String) (mode : Mode) :
    (fs.set location (.directory mode .nil)).WellFormed where
  ordered := h.ordered.put (e := .directory mode .nil) trivial location
  number_lt l n hentry := by
    obtain hold | ⟨-, hnew⟩ := Directory.get?_file_of_put (fun _ _ => rfl) hentry
    · exact h.number_lt l n hold
    · cases hnew

/-! ## What can be done by paths -/

/-- **Writing keeps a file system well-formed.** -/
theorem update (h : fs.WellFormed) (path : String) (f : Bytes → Bytes) :
    (fs.update path f).1.WellFormed := by
  obtain heq | ⟨location, number, -, -, heq⟩ | ⟨location, content, mode, -, -, heq⟩ :=
    fs.update_cases path f
  · rw [heq]
    exact h
  · rw [heq]
    obtain heq | ⟨file, heq⟩ := fs.change_cases number f
    · rw [heq]
      exact h
    · rw [heq]
      exact h.store number file
  · rw [heq]
    exact h.addFile location content mode

theorem write (h : fs.WellFormed) (path : String) (content : Bytes) :
    (fs.write path content).1.WellFormed :=
  h.update path _

theorem append (h : fs.WellFormed) (path : String) (content : Bytes) :
    (fs.append path content).1.WellFormed :=
  h.update path _

/-- **So does making a file.** -/
theorem createFile (h : fs.WellFormed) (path : String) (mode : Mode) :
    (fs.createFile path mode).1.WellFormed := by
  cases hresult : (fs.createFile path mode).2 with
  | error e =>
      rw [fst_createFile_of_error hresult]
      exact h
  | ok _ =>
      obtain ⟨location, allowed, -, -, -, heq⟩ := exists_of_createFile hresult
      rw [heq]
      exact h.addFile location [] allowed

/-- **So does removing one.** -/
theorem removeFile (h : fs.WellFormed) (path : String) : (fs.removeFile path).1.WellFormed := by
  obtain heq | ⟨location, heq⟩ := fs.removeFile_cases path
  · rw [heq]
    exact h
  · rw [heq]
    exact h.drop location

theorem createDirectory (h : fs.WellFormed) (path : String) :
    (fs.createDirectory path).1.WellFormed := by
  obtain heq | ⟨location, mode, heq⟩ := fs.createDirectory_cases path
  · rw [heq]
    exact h
  · rw [heq]
    exact h.setDirectory location mode

theorem createAlong (h : fs.WellFormed) (paths : List String) :
    (fs.createAlong paths).1.WellFormed := by
  induction paths generalizing fs with
  | nil => exact h
  | cons path above ih =>
      have hfirst := h.createDirectory path
      rw [FileSystem.createAlong]
      dsimp only
      split
      · exact h
      · split
        · next heq =>
          rw [heq] at hfirst
          exact hfirst
        · next heq =>
          rw [heq] at hfirst
          have habove := ih hfirst
          split
          · next heq =>
            rw [heq] at habove
            exact habove
          · next heq =>
            rw [heq] at habove
            have hagain := habove.createDirectory path
            split
            · next heq =>
              rw [heq] at hagain
              exact hagain
            · next heq =>
              rw [heq] at hagain
              exact hagain
        · next heq =>
          rw [heq] at hfirst
          exact hfirst

/-- **So does making directories.** -/
theorem createDirectories (h : fs.WellFormed) (path : String) :
    (fs.createDirectories path).1.WellFormed :=
  h.createAlong _

end WellFormed

end CallForest.FileSystem
