import CallForest.Proofs.Files.Paths

/-!
# What is written is read

A file that is made where nothing was is what its path leads to afterwards
(`mem_fileOf?_createFile`), and a file whose content has been written whole is read back
(`read_write`).

For the first, the directory of the new file has to be there. It is, since names lead to a place
where nothing is from within a directory only (`directory_of_walk`).
-/

namespace CallForest

namespace Directory

/-- Whatever an entry stands in is there. -/
theorem isSome_get?_dropLast {d : Directory} {location : List String}
    (h : (d.get? location).isSome) : (d.get? location.dropLast).isSome := by
  rcases List.eq_nil_or_concat location with rfl | ⟨front, name, rfl⟩
  · exact h
  · rw [List.concat_eq_append, get?_append] at h
    rw [List.concat_eq_append, List.dropLast_concat]
    obtain ⟨e, he⟩ := Option.isSome_iff_exists.mp h
    obtain ⟨above, habove, -⟩ := Option.bind_eq_some_iff.mp he
    exact Option.isSome_of_eq_some habove

/-- An entry is put where its directory is there. -/
theorem get?_put_of_directory {d : Directory} {location : List String} (hne : location ≠ [])
    (hdirectory : d.isDirectoryAt location.dropLast) (e : Entry) :
    (d.put e location).get? location = some e := by
  obtain rfl | ⟨base, name, rfl⟩ := List.eq_nil_or_concat location
  · exact absurd rfl hne
  · rw [List.concat_eq_append] at hdirectory ⊢
    rw [List.dropLast_concat] at hdirectory
    obtain ⟨mode, sub, hsub⟩ := exists_of_isDirectoryAt hdirectory
    rw [put_concat, ← find?_eq_get? (get?_alter_self hsub _)]
    exact find?_insert_self ..

end Directory

namespace FileSystem

/-! ## Places where nothing is -/

section Walk

variable {root : Directory} {followsLast : Bool} {here names location : List String}

/-- From where something is, names lead to a place where nothing is from within a directory. -/
theorem directory_of_walk (hhere : (root.get? here).isSome)
    (h : (walk root followsLast here names).toOption = some (.arrived location none)) :
    location ≠ [] ∧ root.isDirectoryAt location.dropLast := by
  induction names generalizing here with
  | nil =>
      rw [walk] at h
      cases hget : root.get? here with
      | none =>
          rw [hget] at hhere
          cases hhere
      | some e =>
          rw [hget] at h
          cases h
  | cons name names ih =>
      rw [walk_cons] at h
      split at h
      · next hgoes =>
        have hdirectory := (Bool.and_eq_true_iff.mp hgoes).1
        split at h
        · exact ih hhere h
        · split at h
          · exact ih (Directory.isSome_get?_dropLast hhere) h
          · split at h
            · split at h <;> cases h
            · by_cases hthere : (root.get? (here ++ [name])).isSome
              · exact ih hthere h
              · -- nothing is there, so this is the last name
                have hnone := Option.not_isSome_iff_eq_none.mp hthere
                cases names with
                | nil =>
                    rw [walk] at h
                    obtain ⟨rfl, -⟩ := Progress.arrived.inj (Option.some.inj h)
                    refine ⟨List.append_ne_nil_of_right_ne_nil _ (List.cons_ne_nil _ _), ?_⟩
                    rw [List.dropLast_concat]
                    exact hdirectory
                | cons n names =>
                    rw [walk_cons, Directory.isDirectoryAt, hnone] at h
                    cases h
      · cases h

/-- Links stand in directories. -/
theorem isSome_of_linked {there rest : List String} {path : String}
    (hhere : (root.get? here).isSome)
    (h : (walk root followsLast here names).toOption = some (.linked there path rest)) :
    (root.get? there).isSome := by
  induction names generalizing here with
  | nil => cases h
  | cons name names ih =>
      rw [walk_cons] at h
      split at h
      · split at h
        · exact ih hhere h
        · split at h
          · exact ih (Directory.isSome_get?_dropLast hhere) h
          · split at h
            · split at h
              · cases h
              · cases h
                exact hhere
            · by_cases hthere : (root.get? (here ++ [name])).isSome
              · exact ih hthere h
              · have hnone := Option.not_isSome_iff_eq_none.mp hthere
                cases names with
                | nil => cases h
                | cons n names =>
                    rw [walk_cons, Directory.isDirectoryAt, hnone] at h
                    cases h
      · cases h

/-- A walk that would not follow a link at the end is the same if it would, and none stands
there. -/
theorem walk_true_of_false {place : Progress}
    (h : (walk root false here names).toOption.map Progress.place = some place)
    (hlink : ∀ location, place = .arrived location none → root.linkAt? location = none) :
    (walk root true here names).toOption.map Progress.place = some place := by
  induction names generalizing here with
  | nil => exact h
  | cons name names ih =>
      rw [walk_cons] at h ⊢
      split at h
      · next hgoes =>
        rw [if_pos hgoes]
        split at h
        · next hdot =>
          rw [if_pos hdot]
          exact ih h
        · next hdot =>
          rw [if_neg hdot]
          split at h
          · next hdots =>
            rw [if_pos hdots]
            exact ih h
          · next hdots =>
            rw [if_neg hdots]
            split at h
            · next path hpath =>
              split at h
              · have harrived := hlink _ (Option.some.inj h).symm
                rw [hpath] at harrived
                cases harrived
              · rw [Bool.not_true, Bool.and_false]
                exact h
            · exact ih h
      · cases h

theorem follow_true_of_false {links : Nat}
    (h : (follow root false links here names).toOption.map Prod.fst = some location)
    (hlink : root.linkAt? location = none) :
    (follow root true links here names).toOption.map Prod.fst = some location := by
  induction links generalizing here names with
  | zero => cases h
  | succ links ih =>
      rw [follow_succ] at h ⊢
      obtain ⟨progress, hwalk, hrest⟩ := Option.bind_eq_some_iff.mp h
      cases progress with
      | arrived l entry =>
          cases hrest
          rw [walk_true_of_false hwalk fun l hl => by cases hl; exact hlink]
          rfl
      | linked there path rest =>
          rw [walk_true_of_false hwalk nofun, Option.bind_some]
          dsimp only at hrest ⊢
          split at hrest
          · cases hrest
          · next hpath =>
            rw [if_neg hpath]
            exact ih hrest

theorem directory_of_follow {links : Nat} (hhere : (root.get? here).isSome)
    (h : (follow root followsLast links here names).toOption.map Prod.fst = some location)
    (hnone : root.get? location = none) :
    location ≠ [] ∧ root.isDirectoryAt location.dropLast := by
  induction links generalizing here names with
  | zero => cases h
  | succ links ih =>
      rw [follow_succ] at h
      obtain ⟨place, hplace, hrest⟩ := Option.bind_eq_some_iff.mp h
      obtain ⟨progress, hwalk, rfl⟩ := Option.map_eq_some_iff.mp hplace
      cases progress with
      | arrived l entry =>
          cases hrest
          have hentry := entry_of_walk hwalk
          rw [hnone] at hentry
          rw [hentry] at hwalk
          exact directory_of_walk hhere hwalk
      | linked there path rest =>
          have hthere := isSome_of_linked hhere hwalk
          simp only [Progress.place] at hrest
          split at hrest
          · cases hrest
          · refine ih ?_ hrest
            split
            · rfl
            · exact hthere

end Walk

/-! ## New files -/

variable {fs : FileSystem} {path : String}

/-- Where no link stands, it does not matter whether it would be followed. -/
theorem leadsTo?_true_of_false {location : List String}
    (h : fs.leadsTo? false path = some location) (hlink : fs.root.linkAt? location = none) :
    fs.leadsTo? true path = some location := by
  rw [leadsTo?] at h ⊢
  split at h
  · cases h
  · next hpath =>
    rw [if_neg hpath]
    cases hslash : asksForDirectory path with
    | true =>
        rw [hslash] at h
        exact h
    | false =>
        rw [hslash] at h
        exact follow_true_of_false h hlink

/-- A path without a slash at its end is resolved to where it leads. -/
theorem resolveBy_of_leadsTo? {followsLast : Bool} {location : List String}
    (hleads : fs.leadsTo? followsLast path = some location)
    (hslash : asksForDirectory path = false) :
    fs.resolveBy followsLast path = .ok ⟨location, fs.root.get? location, false⟩ := by
  have hoption := resolveBy_toOption followsLast fs path
  rw [hleads, Option.bind_some, hslash] at hoption
  cases hby : fs.resolveBy followsLast path with
  | error e =>
      rw [hby] at hoption
      cases hoption
  | ok target =>
      rw [hby] at hoption
      cases hoption
      rfl

/-- A file is made where the path leads and nothing is. -/
theorem exists_of_createFile {mode : Mode} (h : (fs.createFile path mode).2 = .ok ()) :
    ∃ location allowed, fs.leadsTo? false path = some location ∧
      fs.root.get? location = none ∧ asksForDirectory path = false ∧
        (fs.createFile path mode).1 = fs.addFile location [] allowed := by
  rw [createFile] at h ⊢
  split at h
  · cases h
  · next place hplace =>
    have hresolve := resolveBy_toOption false fs path
    rw [show fs.resolveBy false path = .ok place from hplace] at hresolve
    obtain ⟨location, hleads, hsome⟩ := Option.bind_eq_some_iff.mp hresolve.symm
    split at hsome
    · cases hsome
    · cases hsome
      split at h
      · cases h
      · next hentry =>
        split at h
        · cases h
        · next hslash =>
          rw [if_neg hentry, if_neg hslash]
          exact ⟨location, _, hleads, Option.not_isSome_iff_eq_none.mp hentry,
            eq_false_of_ne_true hslash, rfl⟩

/-- Wherever a path leads and nothing is, a file can be made. -/
theorem result_createFile {location : List String} (hleads : fs.leadsTo? false path = some location)
    (hnone : fs.root.get? location = none) (hslash : asksForDirectory path = false) (mode : Mode) :
    (fs.createFile path mode).2 = .ok () := by
  rw [createFile, locate, resolveBy_of_leadsTo? hleads hslash, hnone]
  rfl

/-- **What an absolute path leads to is the new file**, after one has been made there. -/
theorem mem_fileOf?_createFile {mode : Mode} (habsolute : Path.isAbsolute path)
    (h : (fs.createFile path mode).2 = .ok ()) :
    fs.stored.size ∈ (fs.createFile path mode).1.fileOf? path := by
  obtain ⟨location, allowed, hleads, hnone, -, heq⟩ := exists_of_createFile h
  have hdirectory : location ≠ [] ∧ fs.root.isDirectoryAt location.dropLast := by
    rw [leadsTo?, if_pos habsolute] at hleads
    split at hleads
    · cases hleads
    · exact directory_of_follow rfl hleads hnone
  rw [heq]
  have hnew : (fs.addFile location [] allowed).root.get? location = some (.file fs.stored.size) :=
    Directory.get?_put_of_directory hdirectory.1 hdirectory.2 _
  have halike : Directory.Alike fs.root (fs.addFile location [] allowed).root :=
    (Directory.sameBut_put hnone rfl).alike
  have hstill : (fs.addFile location [] allowed).leadsTo? false path = some location :=
    (leadsTo?_of_alike halike rfl false path).symm.trans hleads
  refine mem_fileOf?.mpr ⟨location, leadsTo?_true_of_false hstill ?_, hnew⟩
  rw [Directory.linkAt?, hnew]
  rfl

theorem size_createFile {mode : Mode} (h : (fs.createFile path mode).2 = .ok ()) :
    (fs.createFile path mode).1.stored.size = fs.stored.size + 1 := by
  obtain ⟨location, allowed, -, -, -, heq⟩ := exists_of_createFile h
  rw [heq, addFile, Array.size_push]

/-! ## Reading -/

/-- A path that does not end in a slash is as it was written. -/
theorem withoutSlashes_eq (h : asksForDirectory path = false) :
    Path.withoutSlashes path = path := by
  have hlast : path.toList.reverse.head? ≠ some '/' := by
    rw [List.head?_reverse]
    exact ne_of_beq_false h
  rw [Path.withoutSlashes]
  cases hchars : path.toList.reverse with
  | nil =>
      have hempty : path = "" := String.toList_inj.mp (List.reverse_eq_nil_iff.mp hchars)
      rw [hempty]
      rfl
  | cons c cs =>
      have hc : c ≠ '/' := fun hc => hlast (by rw [hchars, hc]; rfl)
      rw [List.dropWhile_cons_of_neg (by simpa using hc)]
      dsimp only
      rw [← hchars, List.reverse_reverse, String.ofList_toList]

/-- A path that leads to a file is resolved to it. -/
theorem resolve_of_mem_fileOf? {number : Nat} (hfile : number ∈ fs.fileOf? path)
    (hslash : asksForDirectory path = false) :
    ∃ location, fs.leadsTo? true path = some location ∧
      fs.root.get? location = some (.file number) ∧
        fs.resolve path = .ok ⟨location, some (.file number), false⟩ := by
  obtain ⟨location, hleads, hentry⟩ := mem_fileOf?.mp hfile
  refine ⟨location, hleads, hentry, ?_⟩
  rw [resolve, resolveBy_of_leadsTo? hleads hslash, hentry]

/-- A path asks for a directory by the slash at its end. -/
theorem endsWith_slash (path : String) : path.endsWith "/" = asksForDirectory path := by
  rw [Bool.eq_iff_iff, String.endsWith_eq_endsWith_toSlice, String.Slice.endsWith_string_iff,
    String.copy_toSlice, asksForDirectory, beq_iff_eq]
  exact List.singleton_suffix_iff_getLast?_eq_some

/-- A file that is there can be written whole if no file may be too large. -/
theorem result_write {number : Nat} (hfile : number ∈ fs.fileOf? path)
    (hslash : asksForDirectory path = false) (hlimit : fs.sizeLimit = none) (content : Bytes) :
    (fs.write path content).2 = .ok () := by
  obtain ⟨location, -, -, hresolve⟩ := resolve_of_mem_fileOf? hfile hslash
  rw [← withoutSlashes_eq hslash] at hresolve
  rw [write, update, hresolve, endsWith_slash, hslash]
  dsimp only
  rw [if_neg Bool.false_ne_true, change]
  split
  · rw [fit, hlimit]
  · rfl

/-- What fits whole is not cut. -/
theorem fst_fit_of_ok {content : Bytes} (h : (fs.fit content).2 = .ok ()) :
    (fs.fit content).1 = content := by
  rw [fit] at h ⊢
  split at h
  · rfl
  · split at h
    · next hfits => rw [if_pos hfits]
    · cases h

/-- What has been written whole to a file is its content, and nothing else has changed. -/
theorem exists_store_of_write {content : Bytes} {number : Nat} (hfile : number ∈ fs.fileOf? path)
    (hlt : number < fs.stored.size) (hslash : asksForDirectory path = false)
    (h : (fs.write path content).2 = .ok ()) :
    ∃ file, (fs.write path content).1 = fs.store number file ∧ file.content = content := by
  obtain ⟨location, hleads, hentry, hresolve⟩ := resolve_of_mem_fileOf? hfile hslash
  rw [← withoutSlashes_eq hslash] at hresolve
  rw [write, update, hresolve] at h ⊢
  dsimp only at h ⊢
  split at h
  · cases h
  · next hend =>
    rw [if_neg hend]
    rw [change, Array.getElem?_eq_getElem hlt] at h ⊢
    exact ⟨_, rfl, fst_fit_of_ok h⟩

/-- **What has been written whole to a file is read back.** -/
theorem read_write {content : Bytes} {number : Nat} (hfile : number ∈ fs.fileOf? path)
    (hlt : number < fs.stored.size) (hslash : asksForDirectory path = false)
    (h : (fs.write path content).2 = .ok ()) :
    (fs.write path content).1.read path = .ok content := by
  obtain ⟨location, hleads, hentry⟩ := mem_fileOf?.mp hfile
  obtain ⟨file, hstore, hcontent⟩ := exists_store_of_write hfile hlt hslash h
  have hfound : (fs.write path content).1.found? path = some (.file number) := by
    have hroot : (fs.write path content).1.root.get? location = some (.file number) := by
      rw [hstore]
      exact hentry
    rw [found?, write, leadsTo?_update, hleads, Option.bind_some]
    rw [write] at hroot
    rw [hroot, hslash]
    rfl
  rw [read_of_found? hfound, hstore]
  show Except.ok ((fs.store number file).contentOf number) = .ok content
  rw [contentOf, store, Array.getElem?_setIfInBounds_self_of_lt hlt]
  exact congrArg Except.ok hcontent

end FileSystem

end CallForest
