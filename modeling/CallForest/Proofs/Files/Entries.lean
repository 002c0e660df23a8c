import CallForest.Proofs.Files.Locations
import Mathlib.Data.String.Basic

/-!
# The entries of directory trees

In an ordered tree the names in each directory are increasing, and stay so whatever is set or
removed in it (`Ordered.put`, `Ordered.remove`). Its entries are what is at its locations, each at
one of them (`mem_entries`), and they come in lexicographic order of the locations
(`pairwise_entries`): a directory before what it holds, and all of that before the next name.
Ordered trees with the same at all locations are equal (`Ordered.ext`).
-/

namespace CallForest

mutual

def Entry.Ordered : Entry → Prop
  | .directory _ d => d.Ordered
  | .file _ | .device _ | .program _ | .link _ => True

/-- The names in a directory are increasing, and in those below it, too. -/
def Directory.Ordered : Directory → Prop
  | .nil => True
  | .cons name entry rest => (∀ n ∈ rest.names, name < n) ∧ entry.Ordered ∧ rest.Ordered

end

mutual

def Entry.decidableOrdered : (e : Entry) → Decidable e.Ordered
  | .directory _ d => d.decidableOrdered
  | .file _ | .device _ | .program _ | .link _ => isTrue trivial

/-- Whether a tree is ordered is found out name by name. -/
def Directory.decidableOrdered : (d : Directory) → Decidable d.Ordered
  | .nil => isTrue trivial
  | .cons name entry rest =>
    have := entry.decidableOrdered
    have := rest.decidableOrdered
    inferInstanceAs
      (Decidable ((∀ n ∈ rest.names, name < n) ∧ entry.Ordered ∧ rest.Ordered))

end

instance (d : Directory) : Decidable d.Ordered := d.decidableOrdered

namespace Directory

theorem isSome_find? {name : String} {d : Directory} : (d.find? name).isSome ↔ name ∈ d.names := by
  match d with
  | nil => exact ⟨fun h => (by cases h), fun h => (by cases h)⟩
  | cons n e rest =>
      rw [find?, names, List.mem_cons]
      by_cases hn : n = name
      · rw [if_pos hn]
        exact ⟨fun _ => .inl hn.symm, fun _ => rfl⟩
      · rw [if_neg hn, isSome_find?]
        exact (or_iff_right fun heq => hn heq.symm).symm

theorem mem_names_of_find? {name : String} {e : Entry} {d : Directory}
    (h : d.find? name = some e) : name ∈ d.names :=
  isSome_find?.mp (Option.isSome_of_eq_some h)

/-- Names are not found before the first. -/
theorem find?_eq_none_of_lt {name : String} {d : Directory} (h : ∀ n ∈ d.names, name < n) :
    d.find? name = none := by
  cases hfind : d.find? name with
  | none => rfl
  | some e => exact absurd (h name (mem_names_of_find? hfind)) (String.lt_irrefl name)

theorem mem_names_of_below? {name : String} {names : List String} {e : Entry} {d : Directory}
    (h : d.below? (name :: names) = some e) : name ∈ d.names := by
  rw [below?_eq_at?] at h
  obtain ⟨_, hfind, -⟩ := Option.bind_eq_some_iff.mp h
  exact mem_names_of_find? hfind

theorem mem_names_insert {name n : String} {e : Entry} {d : Directory}
    (h : n ∈ (d.insert name e).names) : n = name ∨ n ∈ d.names := by
  match d with
  | nil => exact .inl (List.mem_singleton.mp h)
  | cons first old rest =>
      rw [insert] at h
      split at h
      · exact (List.mem_cons.mp h).imp_right (List.mem_cons_of_mem first)
      · split at h
        · exact List.mem_cons.mp h
        · obtain rfl | h := List.mem_cons.mp h
          · exact .inr List.mem_cons_self
          · exact (mem_names_insert h).imp_right (List.mem_cons_of_mem first)

/-- A directory stays ordered as entries are set in it. -/
theorem Ordered.insert {d : Directory} (h : d.Ordered) {e : Entry} (he : e.Ordered)
    (name : String) : (d.insert name e).Ordered := by
  match d with
  | nil => exact ⟨fun n hn => (List.not_mem_nil hn).elim, he, trivial⟩
  | cons first old rest =>
      obtain ⟨hfirst, hold, hrest⟩ := h
      rw [Directory.insert]
      split
      · next heq => exact ⟨heq ▸ hfirst, he, hrest⟩
      · next hne =>
        split
        · next hlt =>
          refine ⟨fun n hn => ?_, he, hfirst, hold, hrest⟩
          obtain rfl | hn := List.mem_cons.mp hn
          · exact hlt
          · exact String.lt_trans hlt (hfirst n hn)
        · next hnlt =>
          refine ⟨fun n hn => ?_, hold, hrest.insert he name⟩
          obtain rfl | hn := mem_names_insert hn
          · exact lt_of_le_of_ne (not_lt.mp hnlt) hne
          · exact hfirst n hn

/-- Directories of ordered entries are ordered. -/
theorem ordered_ofList {entries : List (String × Entry)} (h : ∀ found ∈ entries, found.2.Ordered) :
    (ofList entries).Ordered := by
  have hfold : ∀ d : Directory, d.Ordered →
      (entries.foldl (fun d e => d.insert e.1 e.2) d).Ordered := by
    induction entries with
    | nil => exact fun d hd => hd
    | cons first entries ih =>
        obtain ⟨hfirst, hentries⟩ := List.forall_mem_cons.mp h
        exact fun d hd => ih hentries _ (hd.insert hfirst first.1)
  exact hfold nil trivial

end Directory

/-! ## Ordered trees as they change -/

namespace Directory

theorem Ordered.of_find? {d : Directory} (h : d.Ordered) {name : String} {e : Entry}
    (hfind : d.find? name = some e) : e.Ordered := by
  match d with
  | nil => cases hfind
  | cons n old rest =>
      obtain ⟨-, hold, hrest⟩ := h
      rw [find?] at hfind
      split at hfind
      · cases hfind
        exact hold
      · exact hrest.of_find? hfind

/-- What is in an ordered entry is ordered. -/
theorem Ordered.of_at? {e e' : Entry} (h : e.Ordered) {names : List String}
    (hat : e.at? names = some e') : e'.Ordered := by
  induction names generalizing e with
  | nil =>
      cases hat
      exact h
  | cons name names ih =>
      cases e with
      | directory mode d =>
          obtain ⟨x, hx, hat⟩ := Option.bind_eq_some_iff.mp hat
          have hd : d.Ordered := h
          exact ih (hd.of_find? hx) hat
      | file number | device d | program name | link path => cases hat

theorem Ordered.of_get? {d : Directory} (h : d.Ordered) {location : List String} {e : Entry}
    (hget : d.get? location = some e) : e.Ordered := by
  rw [get?_eq_at?] at hget
  exact Ordered.of_at? (e := .folder d) h hget

theorem mem_names_of_erase {name n : String} {d : Directory} (h : n ∈ (d.erase name).names) :
    n ∈ d.names := by
  match d with
  | nil => exact h
  | cons first old rest =>
      rw [erase] at h
      split at h
      · exact List.mem_cons_of_mem first h
      · obtain rfl | h := List.mem_cons.mp h
        · exact List.mem_cons_self
        · exact List.mem_cons_of_mem first (mem_names_of_erase h)

/-- And as entries are removed from it. -/
theorem Ordered.erase {d : Directory} (h : d.Ordered) (name : String) : (d.erase name).Ordered := by
  match d with
  | nil => trivial
  | cons first old rest =>
      obtain ⟨hfirst, hold, hrest⟩ := h
      rw [Directory.erase]
      split
      · exact hrest
      · exact ⟨fun n hn => hfirst n (mem_names_of_erase hn), hold, hrest.erase name⟩

/-- No other entry has the name that is removed. -/
theorem Ordered.find?_erase_self {d : Directory} (h : d.Ordered) (name : String) :
    (d.erase name).find? name = none := by
  match d with
  | nil => rfl
  | cons first old rest =>
      obtain ⟨hfirst, -, hrest⟩ := h
      rw [Directory.erase]
      split
      · next heq => exact find?_eq_none_of_lt (heq ▸ hfirst)
      · next hne =>
        rw [find?, if_neg hne]
        exact hrest.find?_erase_self name

theorem Ordered.alter {f : Directory → Directory} (hf : ∀ {sub}, sub.Ordered → (f sub).Ordered)
    {base : List String} {d : Directory} (h : d.Ordered) : (d.alter f base).Ordered := by
  induction base generalizing d with
  | nil => exact hf h
  | cons name names ih =>
      rw [Directory.alter]
      split
      · next mode sub hfind =>
        have hsub : (Entry.directory mode sub).Ordered := h.of_find? hfind
        exact h.insert (e := .directory mode _) (ih hsub) name
      · exact h

theorem Ordered.put {d : Directory} (h : d.Ordered) {e : Entry} (he : e.Ordered)
    (location : List String) : (d.put e location).Ordered := by
  obtain rfl | ⟨base, name, rfl⟩ := List.eq_nil_or_concat location
  · exact h
  · rw [List.concat_eq_append, put_concat]
    exact h.alter fun hsub => hsub.insert he name

theorem Ordered.remove {d : Directory} (h : d.Ordered) (location : List String) :
    (d.remove location).Ordered := by
  obtain rfl | ⟨base, name, rfl⟩ := List.eq_nil_or_concat location
  · exact h
  · rw [List.concat_eq_append, remove_concat]
    exact h.alter fun hsub => hsub.erase name

/-- What is removed is gone. -/
theorem Ordered.get?_remove_self {d : Directory} (h : d.Ordered) {location : List String}
    (hne : location ≠ []) : (d.remove location).get? location = none := by
  obtain rfl | ⟨base, name, rfl⟩ := List.eq_nil_or_concat location
  · exact absurd rfl hne
  · rw [List.concat_eq_append]
    cases hbase : d.isDirectoryAt base with
    | true =>
        obtain ⟨mode, sub, hsub⟩ := exists_of_isDirectoryAt hbase
        have hordered : (Entry.directory mode sub).Ordered := h.of_get? hsub
        rw [remove_concat, ← find?_eq_get? (get?_alter_self hsub _)]
        exact Ordered.find?_erase_self hordered name
    | false =>
        -- there is nothing to be removed from
        have hsame : ((d.remove (base ++ [name])).get? base).map Entry.bare =
            (d.get? base).map Entry.bare :=
          get?_remove_elsewhere (fun hprefix => by simpa using hprefix.length_le) d
        have hnone := (isDirectoryAt_congr hsame).trans hbase
        rw [isDirectoryAt] at hnone
        rw [get?_append]
        cases hat : (d.remove (base ++ [name])).get? base with
        | none => rfl
        | some e =>
            rw [hat] at hnone
            exact Entry.at?_cons_of_not_directory hnone name []

theorem Ordered.pairwise_names {d : Directory} (h : d.Ordered) : d.names.Pairwise (· < ·) := by
  match d with
  | nil => exact .nil
  | cons name e rest => exact .cons h.1 h.2.2.pairwise_names

/-- Ordered directories with the same names list them alike. -/
theorem Ordered.names_eq {a b : Directory} (ha : a.Ordered) (hb : b.Ordered)
    (h : ∀ name, name ∈ a.names ↔ name ∈ b.names) : a.names = b.names := by
  have hnodup : ∀ {d : Directory}, d.Ordered → d.names.Nodup := fun hd =>
    hd.pairwise_names.imp fun hlt => hlt.ne
  have hperm := (List.perm_ext_iff_of_nodup (hnodup ha) (hnodup hb)).mpr h
  exact hperm.eq_of_pairwise (fun _ _ _ _ hlt hgt => absurd (String.lt_trans hlt hgt)
    (String.lt_irrefl _)) ha.pairwise_names hb.pairwise_names

/-- A file that is found when an entry without files below it has been set was there, or is that
entry. -/
theorem get?_file_of_put {d : Directory} {location l : List String} {e : Entry} {number : Nat}
    (hbelow : ∀ name names, e.at? (name :: names) = none)
    (h : (d.put e location).get? l = some (.file number)) :
    d.get? l = some (.file number) ∨ l = location ∧ e = .file number := by
  by_cases hprefix : location <+: l
  · obtain ⟨rest, rfl⟩ := hprefix
    rw [get?_append] at h
    obtain hset | hsame := get?_put_self location e d
    · rw [hset, Option.bind_some] at h
      cases rest with
      | nil => exact .inr ⟨List.append_nil _, Option.some.inj h⟩
      | cons name names =>
          rw [hbelow] at h
          cases h
    · rw [hsame, ← get?_append] at h
      exact .inl h
  · exact .inl (get?_of_bare (get?_put_elsewhere hprefix e d).symm h rfl)

/-- A file that is found when something has been removed was there. -/
theorem Ordered.get?_file_of_remove {d : Directory} (hd : d.Ordered) {location l : List String}
    {number : Nat} (h : (d.remove location).get? l = some (.file number)) :
    d.get? l = some (.file number) := by
  by_cases hprefix : location <+: l
  · cases location with
    | nil => exact h
    | cons name names =>
        obtain ⟨rest, rfl⟩ := hprefix
        rw [get?_append, hd.get?_remove_self (List.cons_ne_nil name names)] at h
        cases h
  · exact get?_of_bare (get?_remove_elsewhere hprefix d).symm h rfl

end Directory

/-! ## Order -/

mutual

theorem Entry.entries_eq_map (here : List String) (e : Entry) :
    e.entries here = (e.entries []).map fun found => (here ++ found.1, found.2) := by
  match e with
  | .directory _ d => exact d.entries_eq_map here
  | .file _ | .device _ | .program _ | .link _ => rfl

theorem Directory.entries_eq_map (here : List String) (d : Directory) :
    d.entries here = (d.entries []).map fun found => (here ++ found.1, found.2) := by
  match d with
  | .nil => rfl
  | .cons name e rest =>
      rw [Directory.entries, Directory.entries, e.entries_eq_map (here ++ [name]),
        e.entries_eq_map ([] ++ [name]), rest.entries_eq_map here]
      simp [Function.comp_def]

end

namespace Directory

theorem entries_cons (name : String) (e : Entry) (rest : Directory) :
    (cons name e rest).entries [] =
      ([name], e) :: ((e.entries []).map (fun found => (name :: found.1, found.2)) ++
        rest.entries []) := by
  rw [entries, e.entries_eq_map]
  rfl

theorem exists_cons_of_mem_entries {d : Directory} {found : List String × Entry}
    (h : found ∈ d.entries []) : ∃ name names, found.1 = name :: names ∧ name ∈ d.names := by
  match d with
  | nil => cases h
  | cons n e rest =>
      rw [entries_cons] at h
      obtain rfl | h := List.mem_cons.mp h
      · exact ⟨n, [], rfl, List.mem_cons_self⟩
      · obtain h | h := List.mem_append.mp h
        · obtain ⟨inner, -, rfl⟩ := List.mem_map.mp h
          exact ⟨n, inner.1, rfl, List.mem_cons_self⟩
        · obtain ⟨name, names, hfound, hname⟩ := exists_cons_of_mem_entries h
          exact ⟨name, names, hfound, List.mem_cons_of_mem n hname⟩

end Directory

theorem Entry.ne_nil_of_mem_entries {e : Entry} {found : List String × Entry}
    (h : found ∈ e.entries []) : found.1 ≠ [] := by
  cases e with
  | directory mode d =>
      obtain ⟨name, names, hfound, -⟩ := Directory.exists_cons_of_mem_entries h
      rw [hfound]
      exact List.cons_ne_nil _ _
  | file number | device d | program name | link path => cases h

mutual

theorem Entry.Ordered.pairwise_entries {e : Entry} (h : e.Ordered) :
    (e.entries []).Pairwise fun a b => a.1 < b.1 := by
  match e with
  | .directory _ d => exact Directory.Ordered.pairwise_entries h
  | .file _ | .device _ | .program _ | .link _ => exact .nil

/-- The entries come in lexicographic order of their locations. -/
theorem Directory.Ordered.pairwise_entries {d : Directory} (h : d.Ordered) :
    (d.entries []).Pairwise fun a b => a.1 < b.1 := by
  match d with
  | .nil => exact .nil
  | .cons name e rest =>
      obtain ⟨hname, he, hrest⟩ := h
      have hbefore : ∀ names : List String, ∀ found ∈ rest.entries [],
          name :: names < found.1 := by
        intro names found hfound
        obtain ⟨n, ns, heq, hn⟩ := Directory.exists_cons_of_mem_entries hfound
        rw [heq]
        exact List.cons_lt_cons_iff.mpr (.inl (hname n hn))
      rw [Directory.entries_cons, List.pairwise_cons, List.pairwise_append]
      refine ⟨fun found hfound => ?_, ?_, hrest.pairwise_entries, ?_⟩
      · obtain hinner | hlater := List.mem_append.mp hfound
        · obtain ⟨inner, hin, rfl⟩ := List.mem_map.mp hinner
          obtain ⟨n, ns, hcons⟩ := List.exists_cons_of_ne_nil (Entry.ne_nil_of_mem_entries hin)
          rw [hcons]
          exact List.cons_lt_cons_iff.mpr (.inr ⟨rfl, List.nil_lt_cons n ns⟩)
        · exact hbefore [] found hlater
      · refine List.pairwise_map.mpr (he.pairwise_entries.imp fun hlt => ?_)
        exact List.cons_lt_cons_iff.mpr (.inr ⟨rfl, hlt⟩)
      · intro inner hinner found hfound
        obtain ⟨_, -, rfl⟩ := List.mem_map.mp hinner
        exact hbefore _ found hfound

end

/-! ## Locations -/

namespace Directory

theorem below?_nil (names : List String) : nil.below? names = none := by
  cases names with
  | nil => rfl
  | cons name names => exact nil.below?_eq_at? name names

theorem below?_cons_self (name : String) (e : Entry) (rest : Directory) (names : List String) :
    (cons name e rest).below? (name :: names) = e.at? names := by
  rw [below?_eq_at?, find?, if_pos rfl, Option.bind_some]

theorem below?_cons_of_ne {n name : String} (h : n ≠ name) (e : Entry) (rest : Directory)
    (names : List String) :
    (cons n e rest).below? (name :: names) = rest.below? (name :: names) := by
  rw [below?_eq_at?, find?, if_neg h, ← below?_eq_at?]

end Directory

mutual

theorem Entry.Ordered.mem_entries {e : Entry} (h : e.Ordered) {names : List String}
    {found : Entry} : (names, found) ∈ e.entries [] ↔ names ≠ [] ∧ e.at? names = some found := by
  match e with
  | .directory _ d =>
      refine (Directory.Ordered.mem_entries h).trans ?_
      cases names with
      | nil => exact ⟨fun hnone => (by cases hnone), fun hne => absurd rfl hne.1⟩
      | cons name names =>
          rw [Directory.below?_eq_at?, Entry.at?]
          exact ⟨fun hat => ⟨List.cons_ne_nil _ _, hat⟩, And.right⟩
  | .file _ | .device _ | .program _ | .link _ =>
      cases names with
      | nil => exact ⟨fun hmem => (by cases hmem), fun hne => absurd rfl hne.1⟩
      | cons name names => exact ⟨fun hmem => (by cases hmem), fun hat => (by cases hat.2)⟩

/-- The entries are what is at the locations. -/
theorem Directory.Ordered.mem_entries {d : Directory} (h : d.Ordered) {names : List String}
    {found : Entry} : (names, found) ∈ d.entries [] ↔ d.below? names = some found := by
  match d with
  | .nil =>
      rw [Directory.below?_nil]
      exact ⟨fun hmem => (by cases hmem), fun hnone => (by cases hnone)⟩
  | .cons n e rest =>
      obtain ⟨hname, he, hrest⟩ := h
      rw [Directory.entries_cons, List.mem_cons, List.mem_append, List.mem_map,
        hrest.mem_entries]
      cases names with
      | nil =>
          refine ⟨?_, fun hnone => (by cases hnone)⟩
          rintro (hnil | ⟨_, -, hnil⟩ | hnone)
          · cases hnil
          · cases hnil
          · exact hnone
      | cons name names =>
          by_cases heq : n = name
          · subst heq
            -- the rest of the directory does not have this name
            have hlater : rest.below? (n :: names) ≠ some found := fun hbelow =>
              String.lt_irrefl n (hname n (Directory.mem_names_of_below? hbelow))
            rw [Directory.below?_cons_self]
            constructor
            · rintro (hself | ⟨inner, hin, hinner⟩ | hbelow)
              · cases hself
                rfl
              · cases hinner
                exact (he.mem_entries.mp hin).2
              · exact absurd hbelow hlater
            · intro hat
              cases names with
              | nil =>
                  cases hat
                  exact .inl rfl
              | cons m names =>
                  exact .inr (.inl ⟨_, he.mem_entries.mpr ⟨List.cons_ne_nil _ _, hat⟩, rfl⟩)
          · rw [Directory.below?_cons_of_ne heq]
            refine ⟨?_, fun hbelow => .inr (.inr hbelow)⟩
            rintro (hself | ⟨inner, -, hinner⟩ | hbelow)
            · cases hself
              exact absurd rfl heq
            · cases hinner
              exact absurd rfl heq
            · exact hbelow

end

/-! ## Trees with the same at their locations -/

mutual

/-- Ordered entries are equal if there is the same at every location within them, apart from what
directories hold. -/
theorem Entry.Ordered.ext {a b : Entry} (ha : a.Ordered) (hb : b.Ordered)
    (h : ∀ names, (a.at? names).map Entry.bare = (b.at? names).map Entry.bare) : a = b := by
  have hbare : a.bare = b.bare := Option.some.inj (h [])
  match a with
  | .directory mode d =>
      cases b with
      | directory mode' d' =>
          cases hbare
          exact congrArg (Entry.directory mode)
            (Directory.Ordered.ext ha hb fun name names => h (name :: names))
      | file number | device d | program name | link path => cases hbare
  | .file _ | .device _ | .program _ | .link _ =>
      exact (Entry.eq_of_bare_eq hbare.symm rfl).symm

/-- And so are ordered trees. -/
theorem Directory.Ordered.ext {a b : Directory} (ha : a.Ordered) (hb : b.Ordered)
    (h : ∀ name names, ((a.find? name).bind (Entry.at? names)).map Entry.bare =
      ((b.find? name).bind (Entry.at? names)).map Entry.bare) : a = b := by
  have hnames : ∀ name, name ∈ a.names ↔ name ∈ b.names := by
    intro name
    have hat : Entry.at? [] = some := funext fun _ => rfl
    have hsame := congrArg Option.isSome (h name [])
    rw [Option.isSome_map, Option.isSome_map, hat, Option.bind_fun_some, Option.bind_fun_some]
      at hsame
    rw [← Directory.isSome_find?, ← Directory.isSome_find?, hsame]
  match a with
  | .nil =>
      match b with
      | .nil => rfl
      | .cons n e rest => exact absurd ((hnames n).mpr List.mem_cons_self) List.not_mem_nil
  | .cons n e rest =>
      match b with
      | .nil => exact absurd ((hnames n).mp List.mem_cons_self) List.not_mem_nil
      | .cons n' e' rest' =>
          obtain ⟨hfirst, he, hrest⟩ := ha
          obtain ⟨hfirst', he', hrest'⟩ := hb
          -- the first name of each is a name of the other, so neither is greater
          have hname : n = n' := by
            obtain heq | hlater := List.mem_cons.mp ((hnames n).mp List.mem_cons_self)
            · exact heq
            · obtain heq | hlater' := List.mem_cons.mp ((hnames n').mpr List.mem_cons_self)
              · exact heq.symm
              · exact absurd (String.lt_trans (hfirst n' hlater') (hfirst' n hlater))
                  (String.lt_irrefl n)
          subst hname
          have hentry : e = e' := Entry.Ordered.ext he he' fun names => by
            have hsame := h n names
            rwa [Directory.find?, if_pos rfl, Directory.find?, if_pos rfl] at hsame
          have htail : rest = rest' := Directory.Ordered.ext hrest hrest' fun name names => by
            by_cases hn : n = name
            · subst hn
              rw [Directory.find?_eq_none_of_lt hfirst, Directory.find?_eq_none_of_lt hfirst']
            · have hsame := h name names
              rwa [Directory.find?, if_neg hn, Directory.find?, if_neg hn] at hsame
          rw [hentry, htail]

end

end CallForest
