import CallForest.Collaborator
import CallForest.Proofs.Files.Writing

/-!
# Scratch copies

A scratch copy that has been made holds the source behind its prelude (`read_create`). Where the
copy is made nothing was before, so it is a file of its own, whatever the source is. If it cannot be
made the collaborator is not run (`io_of_create`).
-/

namespace CallForest

namespace Path

theorem isAbsolute_append {front : String} (h : isAbsolute front) (rest : String) :
    isAbsolute (front ++ rest) := by
  rw [isAbsolute] at h ⊢
  rw [String.toList_append, List.head?_append, eq_of_beq h]
  rfl

/-- Joined to an absolute path, every path is absolute. -/
theorem isAbsolute_join {root : String} (h : isAbsolute root) (path : String) :
    isAbsolute (join root path) := by
  rw [join]
  split
  · next hpath => exact hpath
  · split
    · exact isAbsolute_append h path
    · exact isAbsolute_append (isAbsolute_append h "/") path

end Path

theorem FileSystem.isAbsolute_absolute (fs : FileSystem) (path : String) :
    Path.isAbsolute (fs.absolute path) :=
  Path.isAbsolute_join (Path.isAbsolute_append (by decide) _) path

namespace Scratch

variable {fs left : FileSystem} {source directory copy : String} {prelude : Option String}

theorem isAbsolute_path (fs : FileSystem) (directory source : String) :
    Path.isAbsolute (path fs directory source) :=
  Path.isAbsolute_join (fs.isAbsolute_absolute directory) _

/-- The steps in which a copy is made. -/
theorem exists_of_create (h : create fs source directory prelude = (left, .ok copy)) :
    ∃ text made, fs.read source = .ok text ∧ copy = path fs directory source ∧
      fs.createFile copy Mode.ofPrivateFile = (made, .ok ()) ∧
        made.write copy (content prelude text) = (left, .ok ()) := by
  rw [create] at h
  cases hread : fs.read source with
  | error e =>
      rw [hread] at h
      cases h
  | ok text =>
      rw [hread] at h
      dsimp only at h
      obtain ⟨made, hmade⟩ : ∃ made, fs.createFile (path fs directory source)
          Mode.ofPrivateFile = made := ⟨_, rfl⟩
      rw [hmade] at h
      obtain ⟨made, _ | _⟩ := made
      · dsimp only at h
        cases (Prod.mk.inj h).2
      · dsimp only at h
        obtain ⟨written, hwritten⟩ : ∃ written, made.write (path fs directory source)
            (content prelude text) = written := ⟨_, rfl⟩
        rw [hwritten] at h
        obtain ⟨written, _ | _⟩ := written
        · dsimp only at h
          cases (Prod.mk.inj h).2
        · dsimp only at h
          obtain ⟨rfl, hcopy⟩ := Prod.mk.inj h
          obtain rfl := Except.ok.inj hcopy
          exact ⟨text, made, rfl, rfl, hmade, hwritten⟩

/-- **A copy that has been made reads as the prelude and the source.** -/
theorem read_create (h : create fs source directory prelude = (left, .ok copy)) :
    ∃ text, fs.read source = .ok text ∧ left.read copy = .ok (content prelude text) := by
  obtain ⟨text, made, hread, hcopy, hmade, hwritten⟩ := exists_of_create h
  have hok : (fs.createFile copy Mode.ofPrivateFile).2 = .ok () := by rw [hmade]
  -- the copy is the file that has just been made
  have hfile := FileSystem.mem_fileOf?_createFile (hcopy ▸ isAbsolute_path fs directory source) hok
  have hsize := FileSystem.size_createFile hok
  obtain ⟨-, -, -, -, hslash, -⟩ := FileSystem.exists_of_createFile hok
  rw [hmade] at hfile hsize
  have hback := FileSystem.read_write hfile (hsize ▸ Nat.lt_succ_self _) hslash
    (congrArg Prod.snd hwritten)
  rw [hwritten] at hback
  exact ⟨text, hread, hback⟩

/-- Whatever goes wrong with a copy, it is not the program. -/
theorem io_of_create {e : CollaboratorError}
    (h : create fs source directory prelude = (left, .error e)) :
    ∃ cause copy?, e = .io source cause copy? := by
  rw [create] at h
  cases hread : fs.read source with
  | error cause =>
      rw [hread] at h
      cases h
      exact ⟨cause, none, rfl⟩
  | ok text =>
      rw [hread] at h
      dsimp only at h
      generalize fs.createFile (path fs directory source) Mode.ofPrivateFile = made at h
      obtain ⟨made, result⟩ := made
      cases result with
      | error cause =>
          dsimp only at h
          cases (Prod.mk.inj h).2
          exact ⟨cause, _, rfl⟩
      | ok _ =>
          dsimp only at h
          generalize made.write (path fs directory source) (content prelude text) = written at h
          obtain ⟨written, result⟩ := written
          cases result with
          | error cause =>
              dsimp only at h
              cases (Prod.mk.inj h).2
              exact ⟨cause, _, rfl⟩
          | ok _ =>
              dsimp only at h
              cases (Prod.mk.inj h).2

end Scratch

end CallForest
