import CallForest.Files.Directory

/-!
# What is at a location

A tree is asked for what is at a location, and changed at one. The root is an entry like any other
here (`Entry.at?`), so that a location may be followed in two steps (`Directory.get?_append`).

Two trees are the same but at a location (`SameBut`) if everywhere else they have the same, apart
from what directories hold, and at the location something that leads nowhere, or nothing. So are a
tree and what becomes of it when a file is put where nothing was (`sameBut_put`). Such trees have
directories and links at the same locations (`SameBut.alike`).
-/

namespace CallForest

namespace Entry

/-- The entry at a location within an entry. -/
def at? : List String → Entry → Option Entry
  | [], e => some e
  | name :: names, .directory _ d => (d.find? name).bind (at? names)
  | _ :: _, .file _ | _ :: _, .device _ | _ :: _, .program _ | _ :: _, .link _ => none

/-- An entry without what it holds. -/
def bare : Entry → Entry
  | .directory mode _ => .directory mode .nil
  | e => e

/-- The path of a link. -/
def link? : Entry → Option String
  | .link path => some path
  | .file _ | .device _ | .program _ | .directory _ _ => none

/-- What a directory holds. -/
def held? : Entry → Option Directory
  | .directory _ d => some d
  | .file _ | .device _ | .program _ | .link _ => none

/-- Whether nothing is to be found beyond an entry. -/
def isLeaf (e : Entry) : Bool :=
  !e.isDirectory && e.link?.isNone

@[simp] theorem isDirectory_bare (e : Entry) : e.bare.isDirectory = e.isDirectory := by
  cases e <;> rfl

@[simp] theorem link?_bare (e : Entry) : e.bare.link? = e.link? := by
  cases e <;> rfl

@[simp] theorem isRegular_bare (e : Entry) : e.bare.isRegular = e.isRegular := by
  cases e <;> rfl

@[simp] theorem number?_bare (e : Entry) : e.bare.number? = e.number? := by
  cases e <;> rfl

/-- Only directories hold something. -/
theorem eq_of_bare_eq {a b : Entry} (h : a.bare = b.bare) (hdirectory : b.isDirectory = false) :
    a = b := by
  cases b with
  | directory mode d => cases hdirectory
  | file number | device d | program name | link path =>
      cases a <;> cases h
      rfl

theorem at?_append (front rest : List String) (e : Entry) :
    e.at? (front ++ rest) = (e.at? front).bind (at? rest) := by
  induction front generalizing e with
  | nil => rfl
  | cons name names ih =>
      cases e with
      | directory mode d =>
          rw [List.cons_append, at?, at?, Option.bind_assoc]
          exact congrArg _ (funext ih)
      | file number | device d | program name | link path => rfl

theorem at?_cons_of_not_directory {e : Entry} (h : e.isDirectory = false) (name : String)
    (names : List String) : e.at? (name :: names) = none := by
  cases e with
  | directory mode d => cases h
  | file number | device d | program name | link path => rfl

end Entry

namespace Directory

/-! ## One directory -/

@[simp] theorem find?_insert_self (name : String) (e : Entry) (d : Directory) :
    (d.insert name e).find? name = some e := by
  match d with
  | nil => simp only [insert, find?, if_true]
  | cons n old rest =>
      rw [insert]
      split
      · exact if_pos rfl
      · next hne =>
        split
        · exact if_pos rfl
        · rw [find?, if_neg hne]
          exact find?_insert_self name e rest

theorem find?_insert_of_ne {name other : String} (h : other ≠ name) (e : Entry) (d : Directory) :
    (d.insert name e).find? other = d.find? other := by
  match d with
  | nil => simp only [insert, find?, if_neg h.symm]
  | cons n old rest =>
      rw [insert]
      split
      · next heq => rw [find?, find?, if_neg h.symm, heq, if_neg h.symm]
      · split
        · rw [find?, if_neg h.symm]
        · rw [find?, find?, find?_insert_of_ne h e rest]

theorem find?_erase_of_ne {name other : String} (h : other ≠ name) (d : Directory) :
    (d.erase name).find? other = d.find? other := by
  match d with
  | nil => rfl
  | cons n old rest =>
      rw [erase]
      split
      · next heq => rw [find?, heq, if_neg h.symm]
      · rw [find?, find?, find?_erase_of_ne h rest]

/-! ## Locations -/

theorem below?_eq_at? (d : Directory) (name : String) (names : List String) :
    d.below? (name :: names) = (d.find? name).bind (Entry.at? names) := by
  induction names generalizing d name with
  | nil =>
      rw [below?]
      cases d.find? name <;> rfl
  | cons n names ih =>
      rw [below?]
      cases d.find? name with
      | none => rfl
      | some e =>
          cases e with
          | directory mode sub => exact ih sub n
          | file number | device d | program name | link path => rfl

theorem get?_cons (d : Directory) (name : String) (names : List String) :
    d.get? (name :: names) = (d.find? name).bind (Entry.at? names) :=
  d.below?_eq_at? name names

/-- The root is an entry that holds all. -/
theorem get?_eq_at? (d : Directory) (location : List String) :
    d.get? location = (Entry.folder d).at? location := by
  cases location with
  | nil => rfl
  | cons name names => exact d.get?_cons name names

/-- What is below a directory. -/
theorem get?_cons_cons {d sub : Directory} {name : String} {mode : Mode}
    (h : d.find? name = some (.directory mode sub)) (n : String) (names : List String) :
    d.get? (name :: n :: names) = sub.get? (n :: names) := by
  rw [get?_cons, get?_cons, h]
  rfl

theorem get?_append (d : Directory) (front rest : List String) :
    d.get? (front ++ rest) = (d.get? front).bind (Entry.at? rest) := by
  rw [get?_eq_at?, get?_eq_at?, Entry.at?_append]

/-- What a name in a directory stands for is what is at its location. -/
theorem find?_eq_get? {root d : Directory} {here : List String} {mode : Mode}
    (h : root.get? here = some (.directory mode d)) (name : String) :
    d.find? name = root.get? (here ++ [name]) := by
  rw [get?_append, h]
  exact (Option.bind_fun_some _).symm

/-- Whether there is a directory at a location. -/
def isDirectoryAt (d : Directory) (location : List String) : Bool :=
  (d.get? location).any Entry.isDirectory

theorem exists_of_isDirectoryAt {d : Directory} {location : List String}
    (h : d.isDirectoryAt location) : ∃ mode sub, d.get? location = some (.directory mode sub) := by
  obtain ⟨e, he, hdirectory⟩ := (Option.any_eq_true _ _).mp h
  cases e with
  | directory mode sub => exact ⟨mode, sub, he⟩
  | file number | device d | program name | link path => cases hdirectory

/-- The path of the link at a location. -/
def linkAt? (d : Directory) (location : List String) : Option String :=
  (d.get? location).bind Entry.link?

theorem get?_of_linkAt? {d : Directory} {location : List String} {path : String}
    (h : d.linkAt? location = some path) : d.get? location = some (.link path) := by
  obtain ⟨e, he, hlink⟩ := Option.bind_eq_some_iff.mp h
  rw [he]
  cases e with
  | link other => exact congrArg (some ∘ Entry.link) (Option.some.inj hlink)
  | file number | device d | program name | directory mode d => cases hlink

section Congr

variable {a b : Directory} {location : List String}
  (h : (a.get? location).map Entry.bare = (b.get? location).map Entry.bare)

include h

theorem isDirectoryAt_congr : a.isDirectoryAt location = b.isDirectoryAt location := by
  have hsame := congrArg (Option.any Entry.isDirectory) h
  simp only [Option.any_map, Entry.isDirectory_bare] at hsame
  exact hsame

theorem linkAt?_congr : a.linkAt? location = b.linkAt? location := by
  have hsame := congrArg (Option.bind · Entry.link?) h
  simp only [Option.bind_map, Function.comp_def, Entry.link?_bare] at hsame
  exact hsame

/-- The same file is there, or none. -/
theorem number?_congr :
    (a.get? location).bind Entry.number? = (b.get? location).bind Entry.number? := by
  have hsame := congrArg (Option.bind · Entry.number?) h
  simp only [Option.bind_map, Function.comp_def, Entry.number?_bare] at hsame
  exact hsame

/-- What is no directory is there as it is. -/
theorem get?_of_bare {e : Entry} (hget : b.get? location = some e)
    (hdirectory : e.isDirectory = false) : a.get? location = some e := by
  rw [hget] at h
  obtain ⟨e', he', hbare⟩ := Option.map_eq_some_iff.mp h
  rw [he', Entry.eq_of_bare_eq hbare hdirectory]

end Congr

/-- Two trees with directories and links at the same locations. -/
structure Alike (a b : Directory) : Prop where
  isDirectoryAt_eq : ∀ l, a.isDirectoryAt l = b.isDirectoryAt l
  linkAt?_eq : ∀ l, a.linkAt? l = b.linkAt? l

/-! ## Changes at one location -/

/-- Two trees that differ at a location alone, where neither has a directory or a link. What
directories hold is not compared: locations below them are. -/
structure SameBut (location : List String) (a b : Directory) : Prop where
  elsewhere : ∀ l, ¬location <+: l → (a.get? l).map Entry.bare = (b.get? l).map Entry.bare
  leaf_left : ∀ e, a.get? location = some e → e.isLeaf
  leaf_right : ∀ e, b.get? location = some e → e.isLeaf

namespace SameBut

variable {location : List String} {a b : Directory}

theorem get?_below {d : Directory} (hleaf : ∀ e, d.get? location = some e → e.isLeaf)
    (name : String) (names : List String) : d.get? (location ++ name :: names) = none := by
  rw [get?_append]
  cases hd : d.get? location with
  | none => rfl
  | some e =>
      have h := hleaf e hd
      rw [Entry.isLeaf, Bool.and_eq_true, Bool.not_eq_true'] at h
      exact Entry.at?_cons_of_not_directory h.1 name names

/-- Below the location there is nothing in either tree. -/
theorem get?_of_ne (h : SameBut location a b) {l : List String} (hne : l ≠ location) :
    (a.get? l).map Entry.bare = (b.get? l).map Entry.bare := by
  by_cases hprefix : location <+: l
  · obtain ⟨rest, rfl⟩ := hprefix
    cases rest with
    | nil => exact absurd (List.append_nil location) hne
    | cons name names => rw [get?_below h.leaf_left, get?_below h.leaf_right]
  · exact h.elsewhere l hprefix

theorem leadsNowhere_of_leaf {d : Directory} (hleaf : ∀ e, d.get? location = some e → e.isLeaf) :
    d.isDirectoryAt location = false ∧ d.linkAt? location = none := by
  rw [isDirectoryAt, linkAt?]
  cases hd : d.get? location with
  | none => exact ⟨rfl, rfl⟩
  | some e =>
      have h := hleaf e hd
      rw [Entry.isLeaf, Bool.and_eq_true, Bool.not_eq_true', Option.isNone_iff_eq_none] at h
      exact h

/-- Directories and links are at the same locations. -/
theorem alike (h : SameBut location a b) : Alike a b := by
  have hleft := leadsNowhere_of_leaf h.leaf_left
  have hright := leadsNowhere_of_leaf h.leaf_right
  constructor
  · intro l
    by_cases hl : l = location
    · rw [hl, hleft.1, hright.1]
    · exact isDirectoryAt_congr (h.get?_of_ne hl)
  · intro l
    by_cases hl : l = location
    · rw [hl, hleft.2, hright.2]
    · exact linkAt?_congr (h.get?_of_ne hl)

end SameBut

/-- The tree with the directory at a location changed. Nothing changes if it is not there. -/
def alter (f : Directory → Directory) : List String → Directory → Directory
  | [], d => f d
  | name :: names, d =>
    match d.find? name with
    | some (.directory mode sub) => d.insert name (.directory mode (alter f names sub))
    | _ => d

/-- Setting an entry changes the directory that the entry stands in. -/
theorem put_concat (e : Entry) (base : List String) (name : String) (d : Directory) :
    d.put e (base ++ [name]) = d.alter (insert name e) base := by
  induction base generalizing d with
  | nil => rfl
  | cons n names ih =>
      obtain ⟨m, ms, hlast⟩ := List.exists_cons_of_ne_nil (List.concat_ne_nil name names)
      rw [List.cons_append, hlast, put, alter]
      rw [hlast] at ih
      cases d.find? n with
      | none => rfl
      | some x =>
          cases x with
          | directory mode sub => exact congrArg (d.insert n ∘ Entry.directory mode) (ih sub)
          | file number | device d | program name | link path => rfl

/-- And so does removing one. -/
theorem remove_concat (base : List String) (name : String) (d : Directory) :
    d.remove (base ++ [name]) = d.alter (erase name) base := by
  induction base generalizing d with
  | nil => rfl
  | cons n names ih =>
      obtain ⟨m, ms, hlast⟩ := List.exists_cons_of_ne_nil (List.concat_ne_nil name names)
      rw [List.cons_append, hlast, remove, alter]
      rw [hlast] at ih
      cases d.find? n with
      | none => rfl
      | some x =>
          cases x with
          | directory mode sub => exact congrArg (d.insert n ∘ Entry.directory mode) (ih sub)
          | file number | device d | program name | link path => rfl

/-- A directory that is there is changed. -/
theorem get?_alter_self {base : List String} {d sub : Directory} {mode : Mode}
    (h : d.get? base = some (.directory mode sub)) (f : Directory → Directory) :
    (d.alter f base).get? base = some (.directory mode (f sub)) := by
  induction base generalizing d with
  | nil =>
      cases h
      rfl
  | cons n names ih =>
      have hfind := h
      rw [get?_cons] at hfind
      obtain ⟨e, hfind, hbelow⟩ := Option.bind_eq_some_iff.mp hfind
      cases names with
      | nil =>
          cases hbelow
          rw [alter, hfind, get?_cons, find?_insert_self]
          rfl
      | cons m names =>
          cases e with
          | directory mode' sub' =>
              rw [get?_cons_cons hfind] at h
              rw [alter, hfind, get?_cons_cons (find?_insert_self ..)]
              exact ih h
          | file number | device d | program name | link path => cases hbelow

/-- A directory that is changed under one name leaves all that is not below it. -/
theorem get?_alter_elsewhere {f : Directory → Directory} {name : String}
    (hf : ∀ sub other, other ≠ name → (f sub).find? other = sub.find? other)
    {base l : List String} (h : ¬base ++ [name] <+: l) (d : Directory) :
    ((d.alter f base).get? l).map Entry.bare = (d.get? l).map Entry.bare := by
  induction base generalizing d l with
  | nil =>
      cases l with
      | nil => rfl
      | cons other others =>
          have hother : other ≠ name := fun heq =>
            h (List.cons_prefix_cons.mpr ⟨heq.symm, List.nil_prefix⟩)
          rw [alter, get?_cons, get?_cons, hf d other hother]
  | cons n names ih =>
      rw [alter]
      split
      · next mode sub hfind =>
        cases l with
        | nil => rfl
        | cons other others =>
            by_cases hother : other = n
            · subst hother
              have hbelow : ¬names ++ [name] <+: others := fun hprefix =>
                h (List.cons_prefix_cons.mpr ⟨rfl, hprefix⟩)
              cases others with
              | nil =>
                  rw [get?_cons, get?_cons, find?_insert_self, hfind]
                  rfl
              | cons o os =>
                  rw [get?_cons_cons (find?_insert_self ..), get?_cons_cons hfind]
                  exact ih hbelow sub
            · rw [get?_cons, get?_cons, find?_insert_of_ne hother]
      · rfl

/-- Setting the entry at a location changes nothing elsewhere. -/
theorem get?_put_elsewhere {location l : List String} (h : ¬location <+: l) (e : Entry)
    (d : Directory) : ((d.put e location).get? l).map Entry.bare = (d.get? l).map Entry.bare := by
  obtain rfl | ⟨base, name, rfl⟩ := List.eq_nil_or_concat location
  · exact absurd List.nil_prefix h
  · rw [List.concat_eq_append] at h ⊢
    rw [put_concat]
    exact get?_alter_elsewhere (fun sub _ hother => find?_insert_of_ne hother e sub) h d

/-- Removing the entry at a location changes nothing elsewhere. -/
theorem get?_remove_elsewhere {location l : List String} (h : ¬location <+: l) (d : Directory) :
    ((d.remove location).get? l).map Entry.bare = (d.get? l).map Entry.bare := by
  obtain rfl | ⟨base, name, rfl⟩ := List.eq_nil_or_concat location
  · exact absurd List.nil_prefix h
  · rw [List.concat_eq_append] at h ⊢
    rw [remove_concat]
    exact get?_alter_elsewhere (fun sub _ hother => find?_erase_of_ne hother sub) h d

/-- The entry that is set is there, unless its directory is not. -/
theorem get?_put_self (location : List String) (e : Entry) (d : Directory) :
    (d.put e location).get? location = some e ∨
      (d.put e location).get? location = d.get? location := by
  induction location generalizing d with
  | nil => exact .inr rfl
  | cons name names ih =>
      cases names with
      | nil =>
          left
          rw [put, get?_cons, find?_insert_self]
          rfl
      | cons n names =>
          rw [put]
          split
          · next mode sub hfind =>
            rw [get?_cons_cons (find?_insert_self ..), get?_cons_cons hfind]
            exact ih sub
          · exact .inr rfl

/-- A tree is the same but where a file is put and nothing was. -/
theorem sameBut_put {location : List String} {d : Directory} (hnone : d.get? location = none)
    {e : Entry} (hleaf : e.isLeaf) : SameBut location d (d.put e location) where
  elsewhere _ hl := (get?_put_elsewhere hl e d).symm
  leaf_left e he := by
    rw [hnone] at he
    cases he
  leaf_right e' he' := by
    obtain hset | hsame := get?_put_self location e d
    · rw [hset] at he'
      cases he'
      exact hleaf
    · rw [hsame, hnone] at he'
      cases he'

/-- A tree is the same but where something is removed that leads nowhere. -/
theorem sameBut_remove {location : List String} {d : Directory}
    (hleaf : ∀ e, d.get? location = some e → e.isLeaf)
    (hgone : (d.remove location).get? location = none) :
    SameBut location d (d.remove location) where
  elsewhere _ hl := (get?_remove_elsewhere hl d).symm
  leaf_left := hleaf
  leaf_right e he := by
    rw [hgone] at he
    cases he

end Directory

end CallForest
