import CallForest.Files.FileSystem
import CallForest.Proofs.Files.Locations

/-!
# Where paths lead, and what writing changes

Where a path leads depends on nothing but where there are directories and links
(`leadsTo?_of_alike`). So writing a file changes for no path where it leads (`leadsTo?_update`), and
nothing of what is there but for the paths that lead to the file.

Sources are `Apart` from outputs if none leads to what an output leads to. Then they are `Untouched`
whatever is written to outputs: the same of them are files, with the same content.
-/

namespace CallForest.FileSystem

open Directory (Alike)

/-- The answers of two steps in turn. -/
theorem toOption_bind {ε α β : Type} (x : Except ε α) (f : α → Except ε β) :
    (x >>= f).toOption = x.toOption.bind fun a => (f a).toOption := by
  cases x <;> rfl

theorem eq_ok_of_toOption {ε α : Type} {x : Except ε α} {a : α} (h : x.toOption = some a) :
    x = .ok a := by
  cases x with
  | error e => cases h
  | ok b =>
      cases h
      rfl

/-! ## Where paths lead -/

/-- Where names have led, apart from what is there. -/
def Progress.place : Progress → Progress
  | .arrived location _ => .arrived location none
  | .linked here path names => .linked here path names

/-- A step along a path. -/
theorem walk_cons (root : Directory) (followsLast : Bool) (here : List String) (name : String)
    (names : List String) :
    (walk root followsLast here (name :: names)).toOption =
      if root.isDirectoryAt here && !decide (maxName < Utf8.size name) then
        if name = "." then (walk root followsLast here names).toOption
        else if name = ".." then (walk root followsLast here.dropLast names).toOption
        else
          match root.linkAt? (here ++ [name]) with
          | some path =>
            if names.isEmpty && !followsLast then
              some (.arrived (here ++ [name]) (some (.link path)))
            else some (.linked here path names)
          | none => (walk root followsLast (here ++ [name]) names).toOption
      else none := by
  rw [walk, Directory.isDirectoryAt]
  cases hhere : root.get? here with
  | none => rfl
  | some e =>
      cases e with
      | file number | device d | program name | link path => rfl
      | directory mode d =>
          have hentry := Directory.find?_eq_get? hhere name
          simp only [Option.any_some, Entry.isDirectory, Bool.true_and]
          rw [Directory.linkAt?, ← hentry]
          by_cases hlong : maxName < Utf8.size name
          · rw [if_pos hlong, decide_eq_true hlong]
            rfl
          · rw [if_neg hlong, decide_eq_false hlong]
            split
            · rfl
            · split
              · rfl
              · cases d.find? name with
                | none => rfl
                | some e =>
                    cases e with
                    | file number | device d | program name | directory mode d => rfl
                    | link path =>
                        simp only [Option.bind_some, Entry.link?]
                        split <;> rfl

/-- Names lead to the same place in trees with directories and links at the same locations. -/
theorem walk_of_alike {a b : Directory} (h : Alike a b) (followsLast : Bool) (here : List String)
    (names : List String) :
    (walk a followsLast here names).toOption.map Progress.place =
      (walk b followsLast here names).toOption.map Progress.place := by
  induction names generalizing here with
  | nil => rfl
  | cons name names ih =>
      rw [walk_cons, walk_cons, h.isDirectoryAt_eq, h.linkAt?_eq]
      split
      · split
        · exact ih here
        · split
          · exact ih here.dropLast
          · split
            · rfl
            · exact ih (here ++ [name])
      · rfl

/-- What names have led to is what is there. -/
theorem entry_of_walk {root : Directory} {followsLast : Bool} {here names location : List String}
    {entry : Option Entry}
    (h : (walk root followsLast here names).toOption = some (.arrived location entry)) :
    entry = root.get? location := by
  induction names generalizing here with
  | nil =>
      cases h
      rfl
  | cons name names ih =>
      rw [walk_cons] at h
      split at h
      · split at h
        · exact ih h
        · split at h
          · exact ih h
          · split at h
            · next path hpath =>
              split at h
              · cases h
                exact (Directory.get?_of_linkAt? hpath).symm
              · cases h
            · exact ih h
      · cases h

theorem follow_succ (root : Directory) (followsLast : Bool) (links : Nat)
    (here names : List String) :
    (follow root followsLast (links + 1) here names).toOption.map Prod.fst =
      ((walk root followsLast here names).toOption.map Progress.place).bind fun
        | .arrived location _ => some location
        | .linked here path names =>
          if path.isEmpty then none
          else
            (follow root followsLast links (if Path.isAbsolute path then [] else here)
              (Path.pieces path ++ names)).toOption.map Prod.fst := by
  rw [follow]
  cases walk root followsLast here names with
  | error e => rfl
  | ok progress =>
      cases progress with
      | arrived location entry => rfl
      | linked here path names =>
          show (Except.toOption (if path.isEmpty then _ else _)).map _ =
            if path.isEmpty then _ else _
          split <;> rfl

theorem follow_of_alike {a b : Directory} (h : Alike a b) (followsLast : Bool) (links : Nat)
    (here names : List String) :
    (follow a followsLast links here names).toOption.map Prod.fst =
      (follow b followsLast links here names).toOption.map Prod.fst := by
  induction links generalizing here names with
  | zero => rfl
  | succ links ih =>
      rw [follow_succ, follow_succ, walk_of_alike h]
      congr 1
      funext progress
      cases progress with
      | arrived location entry => rfl
      | linked here path names => simp only [ih]

theorem entry_of_follow {root : Directory} {followsLast : Bool} {links : Nat}
    {here names location : List String} {entry : Option Entry}
    (h : follow root followsLast links here names = .ok (location, entry)) :
    entry = root.get? location := by
  induction links generalizing here names with
  | zero => cases h
  | succ links ih =>
      rw [follow] at h
      cases hwalk : walk root followsLast here names with
      | error e =>
          rw [hwalk] at h
          cases h
      | ok progress =>
          rw [hwalk] at h
          cases progress with
          | arrived l e =>
              cases h
              exact entry_of_walk (congrArg Except.toOption hwalk)
          | linked here path names =>
              simp only [bind, Except.bind] at h
              split at h
              · cases h
              · exact ih h

variable {fs gs : FileSystem}

/-- Whether a path asks for a directory, by the slash at its end. -/
def asksForDirectory (path : String) : Bool :=
  path.toList.getLast? == some '/'

/-- The location that a path leads to, whatever is there. -/
def leadsTo? (followsLast : Bool) (fs : FileSystem) (path : String) : Option (List String) :=
  if path.isEmpty || decide ('\x00' ∈ path.toList) || decide (maxPath ≤ Utf8.size path) then none
  else
    (follow fs.root (followsLast || asksForDirectory path) (maxLinks + 1)
      (if Path.isAbsolute path then [] else fs.workingDirectory)
      (Path.pieces path)).toOption.map Prod.fst

/-- Paths lead to the same locations in trees with directories and links at the same locations. -/
theorem leadsTo?_of_alike (h : Alike fs.root gs.root)
    (hworking : fs.workingDirectory = gs.workingDirectory) (followsLast : Bool) (path : String) :
    fs.leadsTo? followsLast path = gs.leadsTo? followsLast path := by
  rw [leadsTo?, leadsTo?, follow_of_alike h, hworking]

/-- A path is resolved to where it leads, and what is there. -/
theorem resolveBy_toOption (followsLast : Bool) (fs : FileSystem) (path : String) :
    (fs.resolveBy followsLast path).toOption =
      (fs.leadsTo? followsLast path).bind fun location =>
        if asksForDirectory path && (fs.root.get? location).any fun e => !e.isDirectory then none
        else some ⟨location, fs.root.get? location, asksForDirectory path⟩ := by
  rw [resolveBy, leadsTo?]
  by_cases hempty : path.isEmpty
  · rw [hempty]
    rfl
  by_cases hnul : '\x00' ∈ path.toList
  · rw [if_neg hempty, if_pos hnul, decide_eq_true hnul, Bool.or_true]
    rfl
  by_cases hlong : maxPath ≤ Utf8.size path
  · rw [if_neg hempty, if_neg hnul, if_pos hlong, decide_eq_true hlong, Bool.or_true]
    rfl
  rw [if_neg hempty, if_neg hnul, if_neg hlong, decide_eq_false hnul, decide_eq_false hlong,
    eq_false_of_ne_true hempty]
  rw [toOption_bind, Bool.false_or, Bool.false_or, if_neg Bool.false_ne_true, asksForDirectory]
  cases hfollow : follow fs.root (followsLast || path.toList.getLast? == some '/') (maxLinks + 1)
      (if Path.isAbsolute path then [] else fs.workingDirectory) (Path.pieces path) with
  | error e => rfl
  | ok found =>
      obtain ⟨location, entry⟩ := found
      rw [entry_of_follow hfollow]
      show (Except.toOption (if _ then _ else _)) = if _ then _ else _
      split <;> rfl

/-- What a path leads to. -/
def found? (fs : FileSystem) (path : String) : Option Entry :=
  (fs.leadsTo? true path).bind fun location =>
    (fs.root.get? location).filter fun e => !asksForDirectory path || e.isDirectory

theorem entry_toOption (fs : FileSystem) (path : String) :
    (fs.entry path).toOption = fs.found? path := by
  rw [entry, toOption_bind, resolve, resolveBy_toOption, found?, Option.bind_assoc]
  congr 1
  funext location
  cases hentry : fs.root.get? location with
  | none =>
      cases asksForDirectory path <;> rfl
  | some e =>
      cases asksForDirectory path with
      | false => rfl
      | true => cases e <;> rfl

theorem isFile_eq (fs : FileSystem) (path : String) :
    fs.isFile path = (fs.found? path).any Entry.isRegular := by
  rw [← entry_toOption, isFile]
  cases fs.entry path <;> rfl

theorem entry_of_found? {path : String} {e : Entry} (h : fs.found? path = some e) :
    fs.entry path = .ok e :=
  eq_ok_of_toOption ((entry_toOption fs path).trans h)

theorem read_of_found? {path : String} {e : Entry} (h : fs.found? path = some e) :
    fs.read path = fs.bytes e := by
  rw [read, entry_of_found? h]
  rfl

/-- The number of the file that a path leads to. -/
def fileOf? (fs : FileSystem) (path : String) : Option Nat :=
  (fs.leadsTo? true path).bind fun location => (fs.root.get? location).bind Entry.number?

theorem mem_fileOf? {path : String} {number : Nat} :
    number ∈ fs.fileOf? path ↔
      ∃ location, fs.leadsTo? true path = some location ∧
        fs.root.get? location = some (.file number) := by
  rw [fileOf?, Option.mem_def, Option.bind_eq_some_iff]
  refine exists_congr fun location => and_congr_right fun _ => ?_
  cases fs.root.get? location with
  | none => exact ⟨nofun, nofun⟩
  | some e => cases e <;> simp [Entry.number?]

theorem exists?_eq (fs : FileSystem) (path : String) :
    fs.exists? path = (fs.found? path).isSome := by
  rw [← entry_toOption, exists?]
  cases fs.entry path <;> rfl

/-- There is a directory at a path if there is one where it leads. -/
theorem isDirectory_eq (fs : FileSystem) (path : String) :
    fs.isDirectory path = (fs.leadsTo? true path).any fs.root.isDirectoryAt := by
  have hfound : fs.isDirectory path = (fs.found? path).any Entry.isDirectory := by
    rw [← entry_toOption, isDirectory]
    cases fs.entry path <;> rfl
  rw [hfound, found?]
  cases fs.leadsTo? true path with
  | none => rfl
  | some l =>
      rw [Option.bind_some, Option.any_some, Directory.isDirectoryAt]
      cases fs.root.get? l with
      | none => rfl
      | some e => cases e <;> cases asksForDirectory path <;> rfl

theorem readDirectory_toOption (fs : FileSystem) (path : String) :
    (fs.readDirectory path).toOption =
      (fs.leadsTo? true path).bind fun l => (fs.root.get? l).bind Entry.held? := by
  have hread : (fs.readDirectory path).toOption = (fs.found? path).bind Entry.held? := by
    rw [← entry_toOption, readDirectory]
    cases fs.entry path with
    | error x => rfl
    | ok e => cases e <;> rfl
  rw [hread, found?, Option.bind_assoc]
  congr 1
  funext l
  cases fs.root.get? l with
  | none => rfl
  | some e => cases e <;> cases asksForDirectory path <;> rfl

/-- What a path names if it ends in no link that is followed. -/
theorem isOk_named_iff {path : String} : (fs.named path).isOk ↔
    ∃ l e, fs.leadsTo? false path = some l ∧ fs.root.get? l = some e ∧
      (asksForDirectory path → e.isDirectory) := by
  have hnamed : (fs.named path).toOption = (fs.leadsTo? false path).bind fun l =>
      (fs.root.get? l).filter fun e => !asksForDirectory path || e.isDirectory := by
    rw [named, toOption_bind, locate, resolveBy_toOption, Option.bind_assoc]
    congr 1
    funext l
    cases hentry : fs.root.get? l with
    | none => cases asksForDirectory path <;> rfl
    | some e =>
        cases asksForDirectory path with
        | false => rfl
        | true => cases e <;> rfl
  have hok : (fs.named path).isOk ↔ ∃ e, (fs.named path).toOption = some e := by
    cases fs.named path with
    | error e => exact ⟨nofun, nofun⟩
    | ok e => exact ⟨fun _ => ⟨e, rfl⟩, fun _ => rfl⟩
  have himp : ∀ e : Entry, (!asksForDirectory path || e.isDirectory) = true ↔
      (asksForDirectory path → e.isDirectory) := fun e => by
    cases asksForDirectory path <;> simp
  simp only [hok, hnamed, Option.bind_eq_some_iff, Option.filter_eq_some_iff, himp]
  exact exists_comm.trans (by simp only [exists_and_left])

theorem read_toOption (fs : FileSystem) (path : String) :
    (fs.read path).toOption = (fs.found? path).bind fun e => (fs.bytes e).toOption := by
  rw [read, toOption_bind, entry_toOption]

/-- A file can be read. -/
theorem exists_read_of_isFile {path : String} (h : fs.isFile path) :
    ∃ text, fs.read path = .ok text := by
  rw [isFile_eq] at h
  obtain ⟨e, hfound, hregular⟩ := (Option.any_eq_true _ _).mp h
  rw [read_of_found? hfound]
  cases e with
  | file number => exact ⟨_, rfl⟩
  | program name => exact ⟨_, rfl⟩
  | device d | link path | directory mode d => cases hregular

/-! ## Paths that lead to the same -/

section Same

variable {path : String} (hleads : gs.leadsTo? true path = fs.leadsTo? true path)
  (hget : ∀ l ∈ fs.leadsTo? true path,
    (gs.root.get? l).map Entry.bare = (fs.root.get? l).map Entry.bare)

include hleads hget

theorem found?_congr : (gs.found? path).map Entry.bare = (fs.found? path).map Entry.bare := by
  rw [found?, found?, hleads]
  cases hl : fs.leadsTo? true path with
  | none => rfl
  | some l =>
      have hfilter : ∀ o : Option Entry,
          (o.filter fun e => !asksForDirectory path || e.isDirectory).map Entry.bare =
            (o.map Entry.bare).filter fun e => !asksForDirectory path || e.isDirectory := by
        intro o
        cases o with
        | none => rfl
        | some e =>
            rw [Option.map_some, Option.filter_some, Option.filter_some, Entry.isDirectory_bare]
            split <;> rfl
      rw [Option.bind_some, Option.bind_some, hfilter, hfilter, hget l hl]

theorem exists?_congr : gs.exists? path = fs.exists? path := by
  have hsame := congrArg Option.isSome (found?_congr hleads hget)
  rw [Option.isSome_map, Option.isSome_map] at hsame
  rw [exists?_eq, exists?_eq, hsame]

theorem isFile_congr : gs.isFile path = fs.isFile path := by
  have hsame := congrArg (Option.any Entry.isRegular) (found?_congr hleads hget)
  simp only [Option.any_map, Entry.isRegular_bare] at hsame
  rw [isFile_eq, isFile_eq]
  exact hsame

/-- The same is read, if it is no file with another content. -/
theorem read_congr (hcontent : ∀ n ∈ fs.fileOf? path, gs.contentOf n = fs.contentOf n) :
    (gs.read path).toOption = (fs.read path).toOption := by
  have hfound := found?_congr hleads hget
  rw [read_toOption, read_toOption]
  cases he : fs.found? path with
  | none =>
      rw [he] at hfound
      rw [Option.map_eq_none_iff.mp hfound]
      rfl
  | some e =>
      rw [he] at hfound
      obtain ⟨e', he', hbare⟩ := Option.map_eq_some_iff.mp hfound
      rw [he', Option.bind_some, Option.bind_some]
      cases e with
      | file number =>
          cases Entry.eq_of_bare_eq (b := .file number) hbare rfl
          obtain ⟨l, hl, hentry⟩ := Option.bind_eq_some_iff.mp he
          have hfile := mem_fileOf?.mpr ⟨l, hl, (Option.filter_eq_some_iff.mp hentry).1⟩
          exact congrArg some (hcontent number hfile)
      | directory mode d =>
          cases e' with
          | directory mode' d' => rfl
          | file n | device k | program name | link target => cases hbare
      | device d =>
          cases Entry.eq_of_bare_eq (b := .device d) hbare rfl
          cases d <;> rfl
      | program name => cases Entry.eq_of_bare_eq (b := .program name) hbare rfl; rfl
      | link target => cases Entry.eq_of_bare_eq (b := .link target) hbare rfl; rfl

end Same

/-! ## What writing changes -/

/-- All that writing can do: nothing, or to change the file that the path leads to, or to add one
where it leads and nothing is. -/
theorem update_cases (fs : FileSystem) (path : String) (f : Bytes → Bytes) :
    (fs.update path f).1 = fs ∨
      (∃ location number, fs.leadsTo? true (Path.withoutSlashes path) = some location ∧
        fs.root.get? location = some (.file number) ∧
          (fs.update path f).1 = (fs.change number f).1) ∨
      ∃ location content mode, fs.leadsTo? true (Path.withoutSlashes path) = some location ∧
        fs.root.get? location = none ∧
          (fs.update path f).1 = fs.addFile location content mode := by
  rw [update]
  split
  · exact .inl rfl
  · next target htarget =>
    have hresolve := resolveBy_toOption true fs (Path.withoutSlashes path)
    rw [show fs.resolveBy true (Path.withoutSlashes path) = .ok target from htarget] at hresolve
    obtain ⟨location, hleads, hsome⟩ := Option.bind_eq_some_iff.mp hresolve.symm
    split at hsome
    · cases hsome
    · cases hsome
      split
      · exact .inl rfl
      · split
        · exact .inl rfl
        · next number hentry => exact .inr (.inl ⟨location, number, hleads, hentry, rfl⟩)
        · exact .inl rfl
        · exact .inl rfl
        · exact .inl rfl
        · exact .inl rfl
        · next hentry => exact .inr (.inr ⟨location, _, _, hleads, hentry, rfl⟩)

theorem change_cases (fs : FileSystem) (number : Nat) (f : Bytes → Bytes) :
    (fs.change number f).1 = fs ∨ ∃ file, (fs.change number f).1 = fs.store number file := by
  rw [change]
  split
  · exact .inr ⟨_, rfl⟩
  · exact .inl rfl

/-- Writing to a file that is there changes that file, or nothing. -/
theorem update_of_mem_fileOf? {path : String} {number : Nat}
    (h : number ∈ fs.fileOf? (Path.withoutSlashes path)) (f : Bytes → Bytes) :
    (fs.update path f).1 = fs ∨ ∃ file, (fs.update path f).1 = fs.store number file := by
  obtain ⟨location, hleads, hentry⟩ := mem_fileOf?.mp h
  obtain heq | ⟨l, other, hl, hother, heq⟩ | ⟨l, content, mode, hl, hnone, heq⟩ :=
    fs.update_cases path f
  · exact .inl heq
  · cases hleads.symm.trans hl
    cases hentry.symm.trans hother
    rw [heq]
    exact fs.change_cases number f
  · cases hleads.symm.trans hl
    rw [hentry] at hnone
    cases hnone

theorem root_change (fs : FileSystem) (number : Nat) (f : Bytes → Bytes) :
    (fs.change number f).1.root = fs.root := by
  obtain h | ⟨file, h⟩ := fs.change_cases number f
  · rw [h]
  · rw [h]
    rfl

theorem contentOf_store_of_ne (fs : FileSystem) {number other : Nat} (h : other ≠ number)
    (file : StoredFile) : (fs.store number file).contentOf other = fs.contentOf other := by
  rw [contentOf, contentOf, store, Array.getElem?_setIfInBounds_ne h.symm]

theorem contentOf_addFile (fs : FileSystem) {number : Nat} (h : number < fs.stored.size)
    (location : List String) (content : Bytes) (mode : Mode) :
    (fs.addFile location content mode).contentOf number = fs.contentOf number := by
  rw [contentOf, contentOf, addFile, Array.getElem?_push_lt h, Array.getElem?_eq_getElem h]

section Update

variable {path : String} {f : Bytes → Bytes}

theorem alike_update (fs : FileSystem) (path : String) (f : Bytes → Bytes) :
    Alike fs.root (fs.update path f).1.root := by
  obtain h | ⟨location, number, -, -, h⟩ | ⟨location, content, mode, -, hnone, h⟩ :=
    fs.update_cases path f
  · rw [h]
    exact ⟨fun _ => rfl, fun _ => rfl⟩
  · rw [h, root_change]
    exact ⟨fun _ => rfl, fun _ => rfl⟩
  · rw [h]
    exact (Directory.sameBut_put hnone rfl).alike

theorem workingDirectory_update (fs : FileSystem) (path : String) (f : Bytes → Bytes) :
    (fs.update path f).1.workingDirectory = fs.workingDirectory := by
  obtain h | ⟨location, number, -, -, h⟩ | ⟨location, content, mode, -, -, h⟩ :=
    fs.update_cases path f
  · rw [h]
  · rw [h]
    obtain h | ⟨file, h⟩ := fs.change_cases number f
    · rw [h]
    · rw [h]
      rfl
  · rw [h]
    rfl

/-- **Writing changes for no path where it leads.** -/
theorem leadsTo?_update (fs : FileSystem) (path : String) (f : Bytes → Bytes)
    (followsLast : Bool) (other : String) :
    (fs.update path f).1.leadsTo? followsLast other = fs.leadsTo? followsLast other :=
  (leadsTo?_of_alike (fs.alike_update path f) (fs.workingDirectory_update path f).symm
    followsLast other).symm

/-- Writing changes nothing of what is elsewhere, apart from what directories hold. -/
theorem get?_update {l : List String}
    (h : fs.leadsTo? true (Path.withoutSlashes path) ≠ some l) :
    ((fs.update path f).1.root.get? l).map Entry.bare = (fs.root.get? l).map Entry.bare := by
  obtain heq | ⟨location, number, -, -, heq⟩ | ⟨location, content, mode, hleads, hnone, heq⟩ :=
    fs.update_cases path f
  · rw [heq]
  · rw [heq, root_change]
  · have hne : l ≠ location := fun hl => h (hl ▸ hleads)
    rw [heq]
    exact ((Directory.sameBut_put hnone rfl).get?_of_ne hne).symm

theorem size_le_size_update (fs : FileSystem) (path : String) (f : Bytes → Bytes) :
    fs.stored.size ≤ (fs.update path f).1.stored.size := by
  obtain h | ⟨location, number, -, -, h⟩ | ⟨location, content, mode, -, -, h⟩ :=
    fs.update_cases path f
  · exact Nat.le_of_eq (by rw [h])
  · rw [h]
    obtain h | ⟨file, h⟩ := fs.change_cases number f
    · exact Nat.le_of_eq (by rw [h])
    · exact Nat.le_of_eq (by rw [h, store, Array.size_setIfInBounds])
  · rw [h, addFile, Array.size_push]
    exact Nat.le_succ _

/-- Writing changes no other file. -/
theorem contentOf_update {number : Nat} (hlt : number < fs.stored.size)
    (h : number ∉ fs.fileOf? (Path.withoutSlashes path)) :
    (fs.update path f).1.contentOf number = fs.contentOf number := by
  obtain heq | ⟨location, other, hleads, hfile, heq⟩ | ⟨location, content, mode, -, -, heq⟩ :=
    fs.update_cases path f
  · rw [heq]
  · have hne : number ≠ other := fun hsame =>
      h (mem_fileOf?.mpr ⟨location, hleads, hsame ▸ hfile⟩)
    rw [heq]
    obtain heq | ⟨file, heq⟩ := fs.change_cases other f <;> rw [heq]
    exact fs.contentOf_store_of_ne hne file
  · rw [heq]
    exact fs.contentOf_addFile hlt location content mode

/-- A file that a path leads to after writing is the one that was there, or new. -/
theorem mem_fileOf?_of_update {other : String} {number : Nat}
    (h : number ∈ (fs.update path f).1.fileOf? other) :
    number ∈ fs.fileOf? other ∨
      number = fs.stored.size ∧ number < (fs.update path f).1.stored.size := by
  obtain ⟨l, hl, hfile⟩ := mem_fileOf?.mp h
  rw [leadsTo?_update] at hl
  by_cases hpath : fs.leadsTo? true (Path.withoutSlashes path) = some l
  · obtain heq | ⟨location, number', -, -, heq⟩ | ⟨location, content, mode, hleads, hnone, heq⟩ :=
      fs.update_cases path f
    · exact .inl (mem_fileOf?.mpr ⟨l, hl, heq ▸ hfile⟩)
    · rw [heq, root_change] at hfile
      exact .inl (mem_fileOf?.mpr ⟨l, hl, hfile⟩)
    · cases hleads.symm.trans hpath
      rw [heq] at hfile ⊢
      -- the file that was added, as nothing was there
      obtain hnew | hold := Directory.get?_put_self l (.file fs.stored.size) fs.root
      · rw [addFile, hnew] at hfile
        cases hfile
        rw [addFile, Array.size_push]
        exact .inr ⟨rfl, Nat.lt_succ_self _⟩
      · rw [addFile, hold, hnone] at hfile
        cases hfile
  · have hsame := get?_update (f := f) hpath
    exact .inl (mem_fileOf?.mpr ⟨l, hl, Directory.get?_of_bare hsame.symm hfile rfl⟩)

end Update

/-! ## Files that are not written to -/

/-- No source leads to what an output leads to. -/
structure Apart (fs : FileSystem) (sources outputs : List String) : Prop where
  location_ne : ∀ s ∈ sources, ∀ o ∈ outputs, ∀ l ∈ fs.leadsTo? true s,
    l ∉ fs.leadsTo? true (Path.withoutSlashes o)
  /-- A file may have several names. -/
  number_ne : ∀ s ∈ sources, ∀ o ∈ outputs, ∀ n ∈ fs.fileOf? s,
    n ∉ fs.fileOf? (Path.withoutSlashes o)
  number_lt : ∀ s ∈ sources, ∀ n ∈ fs.fileOf? s, n < fs.stored.size

instance (fs : FileSystem) (sources outputs : List String) :
    Decidable (fs.Apart sources outputs) :=
  decidable_of_iff
    ((∀ s ∈ sources, ∀ o ∈ outputs, ∀ l ∈ fs.leadsTo? true s,
        l ∉ fs.leadsTo? true (Path.withoutSlashes o)) ∧
      (∀ s ∈ sources, ∀ o ∈ outputs, ∀ n ∈ fs.fileOf? s,
        n ∉ fs.fileOf? (Path.withoutSlashes o)) ∧
      ∀ s ∈ sources, ∀ n ∈ fs.fileOf? s, n < fs.stored.size)
    ⟨fun ⟨hlocation, hnumber, hlt⟩ => ⟨hlocation, hnumber, hlt⟩,
      fun h => ⟨h.location_ne, h.number_ne, h.number_lt⟩⟩

/-- What may have become of a state when outputs have been written. -/
structure Untouched (fs : FileSystem) (sources outputs : List String) (gs : FileSystem) :
    Prop where
  leadsTo?_eq : ∀ path, gs.leadsTo? true path = fs.leadsTo? true path
  get?_eq : ∀ s ∈ sources, ∀ l ∈ fs.leadsTo? true s,
    (gs.root.get? l).map Entry.bare = (fs.root.get? l).map Entry.bare
  contentOf_eq : ∀ s ∈ sources, ∀ n ∈ fs.fileOf? s, gs.contentOf n = fs.contentOf n
  size_le : fs.stored.size ≤ gs.stored.size
  /-- Outputs lead to files that were there, or to new ones. -/
  output_cases : ∀ o ∈ outputs, ∀ n ∈ gs.fileOf? (Path.withoutSlashes o),
    n ∈ fs.fileOf? (Path.withoutSlashes o) ∨ fs.stored.size ≤ n

namespace Untouched

variable {sources outputs : List String}

theorem refl (fs : FileSystem) (sources outputs : List String) :
    Untouched fs sources outputs fs where
  leadsTo?_eq _ := rfl
  get?_eq _ _ _ _ := rfl
  contentOf_eq _ _ _ _ := rfl
  size_le := Nat.le_refl _
  output_cases _ _ _ h := .inl h

/-- Writing to an output leaves the sources untouched. -/
theorem update (h : Untouched fs sources outputs gs) (hapart : Apart fs sources outputs)
    {o : String} (ho : o ∈ outputs) (f : Bytes → Bytes) :
    Untouched fs sources outputs (gs.update o f).1 where
  leadsTo?_eq path := (leadsTo?_update gs o f true path).trans (h.leadsTo?_eq path)
  get?_eq s hs l hl := by
    have hne : gs.leadsTo? true (Path.withoutSlashes o) ≠ some l := by
      rw [h.leadsTo?_eq]
      exact hapart.location_ne s hs o ho l hl
    rw [get?_update hne, h.get?_eq s hs l hl]
  contentOf_eq s hs n hn := by
    have hlt := Nat.lt_of_lt_of_le (hapart.number_lt s hs n hn) h.size_le
    rw [← h.contentOf_eq s hs n hn]
    refine contentOf_update hlt fun hout => ?_
    obtain hold | hnew := h.output_cases o ho n hout
    · exact hapart.number_ne s hs o ho n hn hold
    · exact absurd (hapart.number_lt s hs n hn) (Nat.not_lt.mpr hnew)
  size_le := Nat.le_trans h.size_le (gs.size_le_size_update o f)
  output_cases o' ho' n hn := by
    obtain hold | ⟨rfl, -⟩ := mem_fileOf?_of_update hn
    · exact h.output_cases o' ho' n hold
    · exact .inr h.size_le

variable {s : String}

theorem isFile_eq (h : Untouched fs sources outputs gs) (hs : s ∈ sources) :
    gs.isFile s = fs.isFile s :=
  isFile_congr (h.leadsTo?_eq s) (h.get?_eq s hs)

/-- A source that is there reads as it did. -/
theorem read_eq (h : Untouched fs sources outputs gs) (hs : s ∈ sources) (hfile : fs.isFile s) :
    gs.read s = fs.read s := by
  obtain ⟨text, htext⟩ := exists_read_of_isFile hfile
  obtain ⟨text', htext'⟩ := exists_read_of_isFile ((h.isFile_eq hs).trans hfile)
  have hsame := read_congr (h.leadsTo?_eq s) (h.get?_eq s hs) (h.contentOf_eq s hs)
  rw [htext, htext'] at hsame
  rw [htext, htext', Option.some.inj hsame]

end Untouched

end CallForest.FileSystem
