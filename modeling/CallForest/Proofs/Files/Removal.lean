import CallForest.Proofs.Files.NamePaths
import CallForest.Proofs.Files.Scratch
import CallForest.Proofs.Files.WellFormed

/-!
# Files that come and go

A directory lists names with what they stand for (`FileSystem.listed?`), and of what a path leads to
it is seen what it is, and the file if it is one (`FileSystem.seen?`).

A file that is made in a directory is one more name there. Whatever happens then, if the directory
still lists the same when the file is removed, it lists what it did before the file was made
(`listed?_removeFile`); and what a path led to before, and still does as it was, is seen as it was
(`seen?_removeFile`).
-/

namespace CallForest

theorem Utf8.size_append (a b : String) : size (a ++ b) = size a + size b := by
  rw [size, encode, String.toList_append, List.flatMap_append, List.length_append]
  rfl

/-- What a name stands for: a file by its number, and a directory whatever it holds. -/
inductive Item where
  | file (number : Nat)
  | device (d : Device)
  | program (name : String)
  | link (path : String)
  | directory
  deriving DecidableEq

namespace Entry

/-- What a name stands for that has an entry. -/
def item : Entry → Item
  | .file number => .file number
  | .device d => .device d
  | .program name => .program name
  | .link path => .link path
  | .directory _ _ => .directory

@[simp] theorem item_bare (e : Entry) : e.bare.item = e.item := by
  cases e <;> rfl

/-- What a name stands for tells a file and its number. -/
theorem eq_file_of_item {e : Entry} {number : Nat} (h : e.item = .file number) :
    e = .file number := by
  cases e <;> cases h
  rfl

end Entry

namespace Directory

/-- The names in a directory with what they stand for, in order. -/
def items : Directory → List (String × Item)
  | nil => []
  | cons n e rest => (n, e.item) :: rest.items

/-- What a name stands for is found among the items. -/
theorem item_find? (name : String) (d : Directory) :
    (d.find? name).map Entry.item =
      (d.items.find? fun i => i.1 = name).map Prod.snd := by
  cases d with
  | nil => rfl
  | cons n e rest =>
      rw [find?, items, List.find?_cons]
      by_cases h : n = name
      · rw [if_pos h, decide_eq_true h]
        rfl
      · rw [if_neg h, decide_eq_false h]
        exact item_find? name rest

theorem items_erase (name : String) (d : Directory) :
    (d.erase name).items = d.items.eraseP fun i => i.1 = name := by
  cases d with
  | nil => rfl
  | cons n e rest =>
      rw [erase, items, List.eraseP_cons]
      by_cases h : n = name
      · rw [if_pos h, decide_eq_true h]
        rfl
      · rw [if_neg h, decide_eq_false h, items, items_erase name rest]
        rfl

/-- What has been entered under a new name is removed without a trace. -/
theorem erase_insert {name : String} {d : Directory} (h : d.find? name = none) (e : Entry) :
    (d.insert name e).erase name = d := by
  match d with
  | nil => simp only [insert, erase, if_true]
  | cons n old rest =>
      rw [find?] at h
      split at h
      · cases h
      · next hne =>
        rw [insert, if_neg hne]
        split
        · rw [erase, if_pos rfl]
        · rw [erase, if_neg hne, erase_insert h e]

/-- A directory with the items that another one has once a name is new there. -/
theorem items_erase_of_insert {name : String} {d e : Directory} {x : Entry}
    (hnew : d.find? name = none) (h : e.items = (d.insert name x).items) :
    (e.erase name).items = d.items := by
  rw [items_erase, h, ← items_erase, erase_insert hnew]

theorem find?_eq_none_of_items {name : String} {d e : Directory} (h : e.items = d.items)
    (hd : d.find? name = none) : e.find? name = none := by
  have hitem := item_find? name e
  rw [h, ← item_find?, hd] at hitem
  exact Option.map_eq_none_iff.mp hitem

end Directory

namespace Path

/-- A name that files and directories may have. -/
structure IsProperName (name : String) : Prop where
  ne_empty : name ≠ ""
  slash : '/' ∉ name.toList
  ne_dot : name ≠ "."
  ne_dots : name ≠ ".."

end Path

namespace FileSystem

open CallForest.Path (IsProperName join)
open Directory (Alike SameBut)

variable {fs gs : FileSystem} {path name : String}

/-- What a directory lists: its names with what they stand for. -/
def listed? (fs : FileSystem) (path : String) : Option (List (String × Item)) :=
  (fs.readDirectory path).toOption.map Directory.items

/-- What is seen of what a path leads to: what it is, and the file if it is one. -/
def seen? (fs : FileSystem) (path : String) : Option (Item × Option StoredFile) :=
  (fs.entry path).toOption.map fun e => (e.item, e.number?.bind fun n => fs.stored[n]?)

/-! ## What is listed and seen -/

theorem listed?_eq (fs : FileSystem) (path : String) :
    fs.listed? path = (fs.leadsTo? true path).bind fun l =>
      (fs.root.get? l).bind fun e => e.held?.map Directory.items := by
  rw [listed?, readDirectory_toOption, Option.map_bind]
  congr 1
  funext l
  rw [Function.comp_apply, Option.map_bind]
  rfl

theorem listed?_eq_some {items : List (String × Item)} :
    fs.listed? path = some items ↔ ∃ base mode d, fs.leadsTo? true path = some base ∧
      fs.root.get? base = some (.directory mode d) ∧ d.items = items := by
  rw [listed?_eq]
  constructor
  · intro h
    obtain ⟨base, hbase, h⟩ := Option.bind_eq_some_iff.mp h
    obtain ⟨e, he, h⟩ := Option.bind_eq_some_iff.mp h
    cases e with
    | directory mode d => exact ⟨base, mode, d, hbase, he, Option.some.inj h⟩
    | file number | device d | program name | link path => cases h
  · rintro ⟨base, mode, d, hbase, he, rfl⟩
    rw [hbase, Option.bind_some, he]
    rfl

/-- What is seen is what is at the place that the path leads to. -/
theorem seen?_eq (fs : FileSystem) (path : String) :
    fs.seen? path = (fs.leadsTo? true path).bind fun l =>
      (((fs.root.get? l).map Entry.bare).filter fun e =>
        !asksForDirectory path || e.isDirectory).map
          fun e => (e.item, e.number?.bind fun n => fs.stored[n]?) := by
  rw [seen?, entry_toOption, found?, Option.map_bind]
  congr 1
  funext l
  rw [Function.comp_apply]
  cases fs.root.get? l with
  | none => rfl
  | some e =>
      simp only [Option.map_some, Option.filter_some, Entry.isDirectory_bare]
      split <;> simp

/-- What is at the same place and the same file is seen the same. -/
theorem seen?_congr (hleads : gs.leadsTo? true path = fs.leadsTo? true path)
    (hget : ∀ l ∈ fs.leadsTo? true path,
      (gs.root.get? l).map Entry.bare = (fs.root.get? l).map Entry.bare)
    (hstored : ∀ n ∈ fs.fileOf? path, gs.stored[n]? = fs.stored[n]?) :
    gs.seen? path = fs.seen? path := by
  rw [seen?_eq, seen?_eq, hleads]
  cases hl : fs.leadsTo? true path with
  | none => rfl
  | some l =>
      rw [Option.bind_some, Option.bind_some, hget l hl]
      refine Option.map_congr fun e he => ?_
      cases hnumber : e.number? with
      | none => rfl
      | some n =>
          obtain ⟨x, hx, rfl⟩ := Option.map_eq_some_iff.mp (Option.filter_eq_some_iff.mp he).1
          rw [Entry.number?_bare] at hnumber
          have hfile : n ∈ fs.fileOf? path := by
            rw [fileOf?, hl, Option.bind_some, hx]
            exact hnumber
          rw [Option.bind_some, Option.bind_some, hstored n hfile]

theorem mem_fileOf?_of_seen? {number : Nat}
    (h : (fs.seen? path).map Prod.fst = some (.file number)) : number ∈ fs.fileOf? path := by
  rw [seen?, Option.map_map, entry_toOption, Option.map_eq_some_iff] at h
  obtain ⟨e, he, hitem⟩ := h
  cases Entry.eq_file_of_item hitem
  obtain ⟨l, hl, hfound⟩ := Option.bind_eq_some_iff.mp he
  exact mem_fileOf?.mpr ⟨l, hl, (Option.filter_eq_some_iff.mp hfound).1⟩

/-- What is seen as it was is no other file. -/
theorem mem_fileOf?_of_seen?_eq {number : Nat} (hsame : gs.seen? path = fs.seen? path)
    (hseen : (fs.seen? path).isSome) (h : number ∈ gs.fileOf? path) : number ∈ fs.fileOf? path := by
  obtain ⟨l, hl, hentry⟩ := mem_fileOf?.mp h
  refine mem_fileOf?_of_seen? (hsame ▸ ?_)
  rw [← hsame] at hseen
  rw [seen?_eq, hl, Option.bind_some, hentry] at hseen ⊢
  cases hslash : asksForDirectory path with
  | false => rfl
  | true =>
      rw [hslash] at hseen
      cases hseen

/-! ## Names in a directory -/

/-- A name that is joined to an absolute path is looked for where the path leads, in every file
system, if the whole is a path at all. -/
theorem leadsTo?_join (hname : IsProperName name) (habsolute : Path.isAbsolute path)
    (h : (fs.leadsTo? false (join path name)).isSome) (gs : FileSystem) :
    gs.leadsTo? false (join path name) = (gs.leadsTo? true path).bind (endsAt? gs.root name) := by
  rw [leadsTo?] at h
  split at h
  · cases h
  · next hvalid =>
    -- no part of a path is too long, or holds what no path may hold
    have hvalid' : ¬(path.isEmpty || decide ('\x00' ∈ path.toList) ||
        decide (maxPath ≤ Utf8.size path)) = true := by
      obtain ⟨slash, hjoin⟩ := Path.exists_join_eq path
      rw [hjoin name (Path.isAbsolute_of_not_mem hname.slash)] at hvalid
      simp only [Bool.or_eq_true, decide_eq_true_eq, not_or, String.toList_append, List.mem_append,
        Utf8.size_append] at hvalid ⊢
      refine ⟨⟨fun hempty => ?_, hvalid.1.2.1.1⟩, fun hlong => hvalid.2 (by omega)⟩
      rw [String.isEmpty_iff.mp hempty] at habsolute
      cases habsolute
    rw [leadsTo?, if_neg hvalid, leadsTo?, if_neg hvalid',
      Path.pieces_join_name hname.slash hname.ne_empty,
      Path.asksForDirectory_join hname.slash hname.ne_empty, if_pos habsolute,
      if_pos (Path.isAbsolute_join habsolute name), Bool.or_false, Bool.true_or,
      follow_concat hname.ne_dot hname.ne_dots]

/-- A file that is made under a name is put into the directory, where the name is new. -/
theorem exists_of_createFile_join (hname : IsProperName name) (habsolute : Path.isAbsolute path)
    {mode : Mode} (hok : (fs.createFile (join path name) mode).2 = .ok ()) :
    ∃ base above d allowed, fs.leadsTo? true path = some base ∧
      fs.root.get? base = some (.directory above d) ∧ d.find? name = none ∧
        fs.leadsTo? false (join path name) = some (base ++ [name]) ∧
          (fs.createFile (join path name) mode).1 = fs.addFile (base ++ [name]) [] allowed := by
  obtain ⟨l, allowed, hleads, hnone, -, hmade⟩ := exists_of_createFile hok
  have hjoin := leadsTo?_join hname habsolute (Option.isSome_of_eq_some hleads) fs
  rw [hleads] at hjoin
  obtain ⟨base, hbase, hend⟩ := Option.bind_eq_some_iff.mp hjoin.symm
  rw [endsAt?] at hend
  split at hend
  · next hthere =>
    cases hend
    obtain ⟨above, d, hd⟩ := Directory.exists_of_isDirectoryAt (Bool.and_eq_true_iff.mp hthere).1
    have hnew := (Directory.find?_eq_get? hd name).trans hnone
    exact ⟨base, above, d, allowed, hbase, hd, hnew, hleads, hmade⟩
  · cases hend

theorem listed?_addFile {base : List String} {above : Mode} {d : Directory}
    (hbase : fs.leadsTo? true path = some base)
    (hd : fs.root.get? base = some (.directory above d)) (hnew : d.find? name = none)
    (content : Bytes) (mode : Mode) :
    (fs.addFile (base ++ [name]) content mode).listed? path =
      some (d.insert name (.file fs.stored.size)).items := by
  have hnone : fs.root.get? (base ++ [name]) = none :=
    (Directory.find?_eq_get? hd name).symm.trans hnew
  have halike : Alike fs.root (fs.addFile (base ++ [name]) content mode).root :=
    (Directory.sameBut_put hnone rfl).alike
  refine listed?_eq_some.mpr ⟨base, above, _, ?_, ?_, rfl⟩
  · exact (leadsTo?_of_alike halike rfl true path).symm.trans hbase
  · rw [addFile, Directory.put_concat]
    exact Directory.get?_alter_self hd _

/-- A file that its directory lists as the only new name is removed, and nothing else. -/
theorem exists_of_removeFile_join (hname : IsProperName name) (habsolute : Path.isAbsolute path)
    (hvalid : (fs.leadsTo? false (join path name)).isSome) {d : Directory} {number : Nat}
    (hnew : d.find? name = none)
    (h : gs.listed? path = some (d.insert name (.file number)).items) :
    ∃ l, gs.root.get? l = some (.file number) ∧
      (gs.removeFile (join path name)).1 = gs.drop l ∧ SameBut l gs.root (gs.drop l).root ∧
        (gs.drop l).listed? path = some d.items := by
  obtain ⟨base, above, sub, hbase, hsub, hitems⟩ := listed?_eq_some.mp h
  have hentry : gs.root.get? (base ++ [name]) = some (.file number) := by
    have hitem := Directory.item_find? name sub
    rw [hitems, ← Directory.item_find?, Directory.find?_insert_self] at hitem
    obtain ⟨e, he, hfile⟩ := Option.map_eq_some_iff.mp hitem
    rw [← Directory.find?_eq_get? hsub, he, Entry.eq_file_of_item hfile]
  have hleads : gs.leadsTo? false (join path name) = some (base ++ [name]) := by
    have hshort : decide (maxName < Utf8.size name) = false := by
      rw [leadsTo?_join hname habsolute hvalid fs] at hvalid
      obtain ⟨l, hl⟩ := Option.isSome_iff_exists.mp hvalid
      obtain ⟨base', -, hend⟩ := Option.bind_eq_some_iff.mp hl
      rw [endsAt?] at hend
      split at hend
      · next hends => exact (Bool.not_eq_true' _).mp (Bool.and_eq_true_iff.mp hends).2
      · cases hend
    rw [leadsTo?_join hname habsolute hvalid gs, hbase, Option.bind_some, endsAt?,
      Directory.isDirectoryAt, hsub, hshort]
    rfl
  have hremoved : (gs.root.remove (base ++ [name])).get? base =
      some (.directory above (sub.erase name)) := by
    rw [Directory.remove_concat]
    exact Directory.get?_alter_self hsub _
  have hback := Directory.items_erase_of_insert hnew hitems
  have hgone : (gs.root.remove (base ++ [name])).get? (base ++ [name]) = none :=
    (Directory.find?_eq_get? hremoved name).symm.trans (Directory.find?_eq_none_of_items hback hnew)
  have hsame : SameBut (base ++ [name]) gs.root (gs.root.remove (base ++ [name])) := by
    refine Directory.sameBut_remove (fun e he => ?_) hgone
    rw [hentry] at he
    cases he
    rfl
  refine ⟨base ++ [name], hentry, ?_, hsame,
    listed?_eq_some.mpr ⟨base, above, _, ?_, hremoved, hback⟩⟩
  · rw [removeFile_eq hleads hentry (Path.asksForDirectory_join hname.slash hname.ne_empty path)]
  · have halike : Alike gs.root (gs.drop (base ++ [name])).root := hsame.alike
    exact (leadsTo?_of_alike halike rfl true path).symm.trans hbase

/-! ## A file that is made and removed -/

section Made

variable {mode : Mode} {other : String}

/-- What a path leads to is seen as it was when a file is made. -/
theorem seen?_createFile (hok : (fs.createFile path mode).2 = .ok ())
    (hseen : (fs.seen? other).isSome) (hstored : ∀ n ∈ fs.fileOf? other, n < fs.stored.size) :
    (fs.createFile path mode).1.seen? other = fs.seen? other := by
  obtain ⟨l, allowed, -, hnone, -, hmade⟩ := exists_of_createFile hok
  have hsame : SameBut l fs.root (fs.addFile l [] allowed).root :=
    Directory.sameBut_put hnone rfl
  rw [hmade]
  refine seen?_congr (leadsTo?_of_alike hsame.alike rfl true other).symm (fun l' hl' => ?_) ?_
  · have hne : l' ≠ l := by
      rintro rfl
      rw [seen?_eq, hl', Option.bind_some, hnone] at hseen
      cases hseen
    exact (hsame.get?_of_ne hne).symm
  · intro n hn
    rw [addFile, Array.getElem?_push_lt (hstored n hn), Array.getElem?_eq_getElem (hstored n hn)]

/-- And when something is written to another file. -/
theorem seen?_update {number : Nat} (hfile : number ∈ fs.fileOf? (Path.withoutSlashes path))
    (hne : number ∉ fs.fileOf? other) (f : Bytes → Bytes) :
    (fs.update path f).1.seen? other = fs.seen? other := by
  obtain heq | ⟨file, heq⟩ := update_of_mem_fileOf? hfile f
  · rw [heq]
  · rw [heq]
    refine seen?_congr rfl (fun _ _ => rfl) fun n hn => ?_
    have hother : number ≠ n := fun h => hne (h ▸ hn)
    rw [store, Array.getElem?_setIfInBounds_ne hother]

theorem listed?_update {number : Nat} (hfile : number ∈ fs.fileOf? (Path.withoutSlashes path))
    (f : Bytes → Bytes) (other : String) :
    (fs.update path f).1.listed? other = fs.listed? other := by
  obtain heq | ⟨file, heq⟩ := update_of_mem_fileOf? hfile f
  · rw [heq]
  · rw [heq]
    rfl

variable (hname : IsProperName name) (habsolute : Path.isAbsolute path)
  (hok : (fs.createFile (join path name) mode).2 = .ok ())
  (hlisted : gs.listed? path = (fs.createFile (join path name) mode).1.listed? path)

include hname habsolute hok hlisted

/-- **A directory lists what it did** before a file was made there, once that file is removed,
if it lists the same until then. -/
theorem listed?_removeFile :
    (gs.removeFile (join path name)).1.listed? path = fs.listed? path := by
  obtain ⟨base, above, d, allowed, hbase, hd, hnew, hleads, hmade⟩ :=
    exists_of_createFile_join hname habsolute hok
  rw [hmade, listed?_addFile hbase hd hnew] at hlisted
  obtain ⟨l, -, hremoved, -, hback⟩ := exists_of_removeFile_join hname habsolute
    (Option.isSome_of_eq_some hleads) hnew hlisted
  rw [hremoved, hback]
  exact (listed?_eq_some.mpr ⟨base, above, d, hbase, hd, rfl⟩).symm

/-- **What was seen before is seen again**, if it is until the file is removed. -/
theorem seen?_removeFile (hseen : (fs.seen? other).isSome)
    (hstored : ∀ n ∈ fs.fileOf? other, n < fs.stored.size)
    (hsame : gs.seen? other = fs.seen? other) :
    (gs.removeFile (join path name)).1.seen? other = fs.seen? other := by
  obtain ⟨base, above, d, allowed, hbase, hd, hnew, hleads, hmade⟩ :=
    exists_of_createFile_join hname habsolute hok
  rw [hmade, listed?_addFile hbase hd hnew] at hlisted
  obtain ⟨l, hfile, hremoved, hbut, -⟩ := exists_of_removeFile_join hname habsolute
    (Option.isSome_of_eq_some hleads) hnew hlisted
  rw [hremoved, ← hsame]
  refine seen?_congr (leadsTo?_of_alike hbut.alike rfl true other).symm (fun l' hl' => ?_)
    fun _ _ => rfl
  have hne : l' ≠ l := by
    -- a file that is as new as the made one was not there before
    rintro rfl
    have hold := mem_fileOf?_of_seen?_eq hsame hseen (mem_fileOf?.mpr ⟨l', hl', hfile⟩)
    exact absurd (hstored _ hold) (Nat.lt_irrefl _)
  exact (hbut.get?_of_ne hne).symm

end Made

end FileSystem

end CallForest
