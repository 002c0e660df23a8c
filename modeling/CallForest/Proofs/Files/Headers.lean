import CallForest.Proofs.Files.Entries
import CallForest.Proofs.Files.NamePaths

/-!
# Finding headers

A search walks through an ordered tree in the order of its locations, and needs to open every
directory. It can if the path of each is short enough (`InReach`). Then it finds the headers at the
locations that its filter takes, in that order (`headers_exact`). With more names to keep, or fewer
to skip, it finds the same headers and others between them.
-/

namespace CallForest

namespace SourceList

/-- The header at a location below a root. -/
def headerAt (root : String) (location : List String) : SourceEntry :=
  .under root (String.intercalate "/" location)

/-- The name of a header: it ends in the extension `h`, which something stands in front of. -/
def IsHeaderName (name : String) : Prop :=
  ∃ stem, stem ≠ "" ∧ name = stem ++ ".h"

/-- The filter leaves out what is in these directories: one of them is skipped, and none is kept. -/
structure LeavesOut (filter : HeaderFilter) (directories : List String) : Prop where
  skipped : ∃ n ∈ directories, n ∈ filter.skip
  not_kept : ∀ n ∈ directories, n ∉ filter.keep

/-- At a location there is a header, and the filter does not leave it out. -/
structure Takes (filter : HeaderFilter) (d : Directory) (location : List String) : Prop where
  isRegular : ∃ e, d.below? location = some e ∧ e.isRegular = true
  isHeader : ∃ name ∈ location.getLast?, IsHeaderName name
  not_leftOut : ¬LeavesOut filter location.dropLast

/-- The headers below a root: those at the locations that the filter takes, each once, and in the
order of the locations. -/
structure FindsAll (filter : HeaderFilter) (root : String) (d : Directory)
    (found : List SourceEntry) : Prop where
  locations : ∃ locations : List (List String), found = locations.map (headerAt root) ∧
    locations.Pairwise (· < ·) ∧ ∀ location, location ∈ locations ↔ Takes filter d location
  nodup : (found.map SourceEntry.shortPath).Nodup
  join_eq : ∀ e ∈ found, Path.join root e.shortPath = e.fullPath

/-- Every directory below a root can be opened: the system takes paths that are shorter than its
limit. -/
def InReach (root : String) (d : Directory) : Prop :=
  ∀ location mode sub, d.below? location = some (.directory mode sub) →
    Utf8.size (Path.join root (String.intercalate "/" location)) < FileSystem.maxPath

/-- The names at all locations below a directory are without backslashes. -/
def NamesPlain (d : Directory) : Prop :=
  ∀ location e, d.below? location = some e → ∀ n ∈ location, Path.IsPlainName n

/-! ## A location -/

variable {filter : HeaderFilter} {root : String} {location : List String}

theorem excludes_iff {directories : List String} :
    filter.excludes directories = true ↔ LeavesOut filter directories := by
  rw [HeaderFilter.excludes, Bool.and_eq_true, Bool.not_eq_true', List.any_eq_true,
    List.any_eq_false]
  simp only [decide_eq_true_eq]
  exact ⟨fun h => ⟨h.1, h.2⟩, fun h => ⟨h.1, h.2⟩⟩

theorem isHeaderName_iff {name : String} :
    Path.nameExtension? name = some "h" ↔ IsHeaderName name := by
  rw [Path.nameExtension?_eq_some]
  refine exists_congr fun stem => and_congr_right fun _ => ?_
  rw [String.append_assoc]
  exact ⟨And.right, fun h => ⟨by decide, h⟩⟩

theorem backslash_not_mem_intercalate (h : ∀ n ∈ location, Path.IsPlainName n) :
    '\\' ∉ (String.intercalate "/" location).toList := by
  induction location with
  | nil => decide
  | cons n names ih =>
      obtain ⟨hn, hnames⟩ := List.forall_mem_cons.mp h
      cases names with
      | nil => exact hn.backslash
      | cons m ms =>
          have hrest := ih hnames
          rw [String.intercalate_cons_cons, String.toList_append, String.toList_append]
          simp only [List.mem_append, not_or]
          exact ⟨⟨hn.backslash, by decide⟩, hrest⟩

theorem relativePath_eq (h : ∀ n ∈ location, Path.IsPlainName n) :
    relativePath location = String.intercalate "/" location := by
  have hmap : ∀ c ∈ (String.intercalate "/" location).toList,
      (if c = '\\' then '/' else c) = c := by
    intro c hc
    refine if_neg fun heq => ?_
    subst heq
    exact backslash_not_mem_intercalate h hc
  rw [relativePath, slashed, List.map_congr_left hmap, List.map_id', String.ofList_toList]

theorem directoriesOf_intercalate (h : ∀ n ∈ location, Path.IsPlainName n) (hne : location ≠ []) :
    directoriesOf (String.intercalate "/" location) = location.dropLast := by
  rw [directoriesOf, Path.splitOn_intercalate (fun n hn => (h n hn).slash) hne,
    ← List.map_dropLast, List.map_map]
  exact List.map_id'' (fun n => String.ofList_toList) _

/-- What a file at a location comes to. -/
theorem discover_eq (h : ∀ n ∈ location, Path.IsPlainName n) {name : String}
    (hname : location.getLast? = some name) :
    discover filter root location =
      if Path.nameExtension? name = some "h" then
        if filter.excludes location.dropLast then
          some (.excluded (String.intercalate "/" location))
        else some (.found (headerAt root location))
      else none := by
  have hne : location ≠ [] := by
    rintro rfl
    cases hname
  rw [discover, hname]
  dsimp only
  rw [relativePath_eq h, directoriesOf_intercalate h hne, Path.pathBelow_eq h hne]
  rfl

/-- Whether the search takes an entry. -/
def isTaken (filter : HeaderFilter) (found : List String × Entry) : Bool :=
  found.2.isRegular && found.1.getLast?.any (fun n => Path.nameExtension? n == some "h") &&
    !filter.excludes found.1.dropLast

/-- An entry that the search takes comes to the header at its location. -/
theorem filterMap_discoveries_singleton {found : List String × Entry}
    (h : ∀ n ∈ found.1, Path.IsPlainName n) :
    (discoveries filter root [found]).filterMap Discovery.entry? =
      if isTaken filter found then [headerAt root found.1] else [] := by
  obtain ⟨location, e⟩ := found
  have hdiscover : (discover filter root location).toList.filterMap Discovery.entry? =
      if location.getLast?.any (fun n => Path.nameExtension? n == some "h") &&
        !filter.excludes location.dropLast then [headerAt root location] else [] := by
    cases hlast : location.getLast? with
    | none => simp [discover, hlast]
    | some name =>
        rw [discover_eq h hlast]
        cases hexcludes : filter.excludes location.dropLast <;>
          by_cases hextension : Path.nameExtension? name = some "h" <;>
            simp [hextension, Discovery.entry?]
  cases e with
  | file number | program name =>
      refine Eq.trans (congrArg (List.filterMap Discovery.entry?) ?_) hdiscover
      rw [discoveries, List.filterMap_cons]
      dsimp only
      cases discover filter root location <;> rfl
  | device d | link path | directory mode d => rfl

/-- The entries that the search takes come to the headers at their locations. -/
theorem filterMap_discoveries {all : List (List String × Entry)}
    (h : ∀ found ∈ all, ∀ n ∈ found.1, Path.IsPlainName n) :
    (discoveries filter root all).filterMap Discovery.entry? =
      (all.filter (isTaken filter)).map fun found => headerAt root found.1 := by
  induction all with
  | nil => rfl
  | cons found all ih =>
      obtain ⟨hfound, hall⟩ := List.forall_mem_cons.mp h
      have happend : discoveries filter root (found :: all) =
          discoveries filter root [found] ++ discoveries filter root all :=
        List.filterMap_append (l := [found])
      rw [happend, List.filterMap_append, filterMap_discoveries_singleton hfound, ih hall,
        List.filter_cons]
      split <;> rfl

/-! ## The search -/

variable {d : Directory}

theorem result_search_of_inReach (h : ∀ found ∈ d.entries [], isOutOfReach root found = false) :
    (search filter root d).result =
      .ok ((discoveries filter root (d.entries [])).filterMap Discovery.entry?) := by
  have htake : (d.entries []).takeWhile (fun found => !isOutOfReach root found) = d.entries [] :=
    List.takeWhile_eq_self_iff.mpr fun found hfound => by rw [h found hfound]; rfl
  rw [search, htake, List.drop_length]

theorem result_search_of_outOfReach {found : List String × Entry} (hmem : found ∈ d.entries [])
    (h : isOutOfReach root found = true) : ∃ path,
    (search filter root d).result = .error (.unreadableDirectory root path .nameTooLong) := by
  have hdrop : (d.entries []).dropWhile (fun found => !isOutOfReach root found) ≠ [] := by
    intro hnil
    have hall := List.dropWhile_eq_nil_iff.mp hnil found hmem
    rw [h] at hall
    cases hall
  obtain ⟨⟨location, e⟩, rest, hcons⟩ := List.exists_cons_of_ne_nil hdrop
  refine ⟨pathBelow root location, ?_⟩
  rw [search, drop_length_takeWhile, hcons]

theorem NamesPlain.of_mem (h : NamesPlain d) (hordered : d.Ordered)
    {found : List String × Entry} (hmem : found ∈ d.entries []) :
    ∀ n ∈ found.1, Path.IsPlainName n :=
  h _ _ (hordered.mem_entries.mp hmem)

/-- The names are plain if they are so on the way through the entries. -/
theorem namesPlain_of_entries (hordered : d.Ordered)
    (h : ∀ found ∈ d.entries [], ∀ n ∈ found.1, Path.IsPlainName n) : NamesPlain d :=
  fun _ _ hbelow => h _ (hordered.mem_entries.mpr hbelow)

theorem inReach_iff (hordered : d.Ordered) (hplain : NamesPlain d) :
    InReach root d ↔ ∀ found ∈ d.entries [], isOutOfReach root found = false := by
  have hpath : ∀ found ∈ d.entries [],
      pathBelow root found.1 = Path.join root (String.intercalate "/" found.1) := by
    intro found hfound
    obtain ⟨name, names, hcons, -⟩ := Directory.exists_cons_of_mem_entries hfound
    exact Path.pathBelow_eq (hplain.of_mem hordered hfound) (hcons ▸ List.cons_ne_nil _ _) root
  constructor
  · rintro h ⟨location, e⟩ hfound
    cases e with
    | directory mode sub =>
        have hshort := h location mode sub (hordered.mem_entries.mp hfound)
        rw [isOutOfReach, hpath _ hfound]
        simpa [Entry.isDirectory] using hshort
    | file number | device d | program name | link path => rfl
  · intro h location mode sub hbelow
    have hfound := hordered.mem_entries.mpr hbelow
    have hreach := h _ hfound
    rw [isOutOfReach, hpath _ hfound] at hreach
    simpa [Entry.isDirectory] using hreach

theorem isTaken_iff (hordered : d.Ordered) {e : Entry} (hmem : (location, e) ∈ d.entries []) :
    isTaken filter (location, e) = true ↔ Takes filter d location := by
  have hbelow := hordered.mem_entries.mp hmem
  simp only [isTaken, Bool.and_eq_true, Bool.not_eq_true', ← Bool.not_eq_true, excludes_iff,
    Option.any_eq_true, beq_iff_eq, isHeaderName_iff]
  constructor
  · rintro ⟨⟨hregular, name, hname, hheader⟩, hleft⟩
    exact ⟨⟨e, hbelow, hregular⟩, ⟨name, hname, hheader⟩, hleft⟩
  · rintro ⟨⟨e', he', hregular⟩, ⟨name, hname, hheader⟩, hleft⟩
    obtain rfl := Option.some.inj (hbelow.symm.trans he')
    exact ⟨⟨hregular, name, hname, hheader⟩, hleft⟩

/-- The locations of the headers that the filter takes, in order. -/
def takenLocations (filter : HeaderFilter) (d : Directory) : List (List String) :=
  ((d.entries []).filter (isTaken filter)).map Prod.fst

theorem mem_takenLocations (hordered : d.Ordered) :
    location ∈ takenLocations filter d ↔ Takes filter d location := by
  constructor
  · intro h
    obtain ⟨⟨_, e⟩, hfound, rfl⟩ := List.mem_map.mp h
    obtain ⟨hmem, htaken⟩ := List.mem_filter.mp hfound
    exact (isTaken_iff hordered hmem).mp htaken
  · intro h
    obtain ⟨e, hbelow, -⟩ := h.isRegular
    have hmem := hordered.mem_entries.mpr hbelow
    exact List.mem_map_of_mem
      (List.mem_filter.mpr ⟨hmem, (isTaken_iff hordered hmem).mpr h⟩)

theorem plain_of_mem_takenLocations (hordered : d.Ordered) (hplain : NamesPlain d)
    (h : location ∈ takenLocations filter d) :
    location ≠ [] ∧ ∀ n ∈ location, '/' ∉ n.toList := by
  obtain ⟨found, hfound, rfl⟩ := List.mem_map.mp h
  have hmem := (List.mem_filter.mp hfound).1
  obtain ⟨name, names, hcons, -⟩ := Directory.exists_cons_of_mem_entries hmem
  exact ⟨hcons ▸ List.cons_ne_nil _ _, fun n hn => (hplain.of_mem hordered hmem n hn).slash⟩

theorem pairwise_takenLocations (hordered : d.Ordered) :
    (takenLocations filter d).Pairwise (· < ·) :=
  List.pairwise_map.mpr (hordered.pairwise_entries.sublist List.filter_sublist)

/-- What a search finds, if it comes to an end. -/
theorem result_search (hordered : d.Ordered) (hplain : NamesPlain d) (hreach : InReach root d) :
    (search filter root d).result = .ok ((takenLocations filter d).map (headerAt root)) := by
  rw [result_search_of_inReach ((inReach_iff hordered hplain).mp hreach),
    filterMap_discoveries fun found hfound => hplain.of_mem hordered hfound, takenLocations,
    List.map_map]
  rfl

theorem findsAll_takenLocations (hordered : d.Ordered) (hplain : NamesPlain d) :
    FindsAll filter root d ((takenLocations filter d).map (headerAt root)) := by
  refine ⟨⟨_, rfl, pairwise_takenLocations hordered, fun _ => mem_takenLocations hordered⟩, ?_, ?_⟩
  · rw [List.map_map]
    refine List.pairwise_map.mpr ((pairwise_takenLocations hordered).imp_of_mem ?_)
    intro l l' hl hl' hlt heq
    obtain ⟨hne, hslash⟩ := plain_of_mem_takenLocations hordered hplain hl
    obtain ⟨hne', hslash'⟩ := plain_of_mem_takenLocations hordered hplain hl'
    obtain rfl := Path.intercalate_inj hslash hslash' hne hne' heq
    exact List.lt_irrefl l hlt
  · intro e he
    obtain ⟨location, -, rfl⟩ := List.mem_map.mp he
    rfl

/-- With more names to keep and fewer to skip, a search takes no less. -/
theorem takenLocations_sublist {wider : HeaderFilter} (hkeep : filter.keep ⊆ wider.keep)
    (hskip : wider.skip ⊆ filter.skip) (d : Directory) :
    (takenLocations filter d).Sublist (takenLocations wider d) := by
  refine (List.monotone_filter_right (d.entries []) fun found htaken => ?_).map Prod.fst
  simp only [isTaken, Bool.and_eq_true, Bool.not_eq_true', ← Bool.not_eq_true,
    excludes_iff] at htaken ⊢
  refine ⟨htaken.1, fun hleft => htaken.2 ⟨?_, fun n hn hkept => ?_⟩⟩
  · obtain ⟨n, hn, hskipped⟩ := hleft.skipped
    exact ⟨n, hn, hskip hskipped⟩
  · exact hleft.not_kept n hn (hkeep hkept)

theorem headers_eq {fs : FileSystem} (hroot : fs.readDirectory root = .ok d)
    (filter : HeaderFilter) : headers fs filter root = search filter root d := by
  rw [headers, hroot]

/-- A search fails at a directory that is out of reach. -/
theorem result_headers_of_outOfReach {fs : FileSystem} (hroot : fs.readDirectory root = .ok d)
    (hordered : d.Ordered) (hplain : NamesPlain d) (hreach : ¬InReach root d)
    (filter : HeaderFilter) : ∃ path,
    (headers fs filter root).result = .error (.unreadableDirectory root path .nameTooLong) := by
  obtain ⟨found, hmem, hfound⟩ : ∃ found ∈ d.entries [], isOutOfReach root found = true := by
    rw [inReach_iff hordered hplain] at hreach
    simpa using hreach
  rw [headers_eq hroot]
  exact result_search_of_outOfReach hmem hfound

/-- **A search finds every header that the filter takes, and each once**: in the order of their
locations, as long as all directories are in reach; otherwise it comes to an error. A filter that
keeps more and skips less only adds to what is found. -/
theorem headers_exact {fs : FileSystem} {root : String} {d : Directory}
    (hroot : fs.readDirectory root = .ok d) (hordered : d.Ordered) (hplain : NamesPlain d) :
    (∀ filter, InReach root d →
      ∃ found, (headers fs filter root).result = .ok found ∧ FindsAll filter root d found) ∧
    (∀ filter, ¬InReach root d → ∃ path,
      (headers fs filter root).result = .error (.unreadableDirectory root path .nameTooLong)) ∧
    ∀ filter wider : HeaderFilter, filter.keep ⊆ wider.keep → wider.skip ⊆ filter.skip →
      ∀ found, (headers fs filter root).result = .ok found →
        ∃ more, (headers fs wider root).result = .ok more ∧ found.Sublist more := by
  have hreached : InReach root d → ∀ filter, (headers fs filter root).result =
      .ok ((takenLocations filter d).map (headerAt root)) := fun hreach filter => by
    rw [headers_eq hroot, result_search hordered hplain hreach]
  refine ⟨fun filter hreach => ?_, fun filter hreach => ?_, ?_⟩
  · exact ⟨_, hreached hreach filter, findsAll_takenLocations hordered hplain⟩
  · exact result_headers_of_outOfReach hroot hordered hplain hreach filter
  · intro filter wider hkeep hskip found hfound
    by_cases hreach : InReach root d
    · rw [hreached hreach] at hfound
      obtain rfl := Except.ok.inj hfound
      exact ⟨_, hreached hreach wider, (takenLocations_sublist hkeep hskip d).map _⟩
    · obtain ⟨path, hfails⟩ := result_headers_of_outOfReach hroot hordered hplain hreach filter
      rw [hfails] at hfound
      cases hfound

def archTree : Directory :=
  .ofList [("arm", .folder (.ofList [("io.h", .file 0)])),
    ("x86", .folder (.ofList [("io.h", .file 1)]))]

/-- A tree of headers, and of files that are none. -/
def sampleTree : Directory :=
  .ofList [("arch", .folder archTree), ("arch.h", .file 2), (".h", .file 3), ("main.c", .file 4),
    ("a-b", .folder (.ofList [("c.h.h", .file 5), ("d.h", .folder .nil)]))]

def sampleIncludes : FileSystem :=
  let file : StoredFile := ⟨Utf8.encode "#pragma once\n", Mode.ofFile, 0⟩
  { FileSystem.ofRoot (.ofList [("inc", .folder sampleTree)]) [] with
    stored := #[file, file, file, file, file, file] }

theorem ordered_archTree : archTree.Ordered := by
  simp [archTree, Directory.ordered_ofList, Entry.folder, Entry.Ordered]

theorem ordered_sampleTree : sampleTree.Ordered := by
  simp [sampleTree, Directory.ordered_ofList, ordered_archTree, Entry.folder, Entry.Ordered,
    Directory.Ordered]

theorem namesPlain_sampleTree : NamesPlain sampleTree :=
  namesPlain_of_entries ordered_sampleTree (by decide +kernel)

theorem headers_exact_sampleTree :
    sampleIncludes.readDirectory "inc" = .ok sampleTree ∧ InReach "inc" sampleTree ∧
      (∃ found, (headers sampleIncludes .default "inc").result = .ok found ∧
        FindsAll .default "inc" sampleTree found) ∧
      (headers sampleIncludes .default "inc").result =
        .ok ([["a-b", "c.h.h"], ["arch", "x86", "io.h"], ["arch.h"]].map (headerAt "inc")) ∧
      ∃ more, (headers sampleIncludes ⟨[], ["x86"]⟩ "inc").result = .ok more ∧
        ([["a-b", "c.h.h"], ["arch", "x86", "io.h"], ["arch.h"]].map (headerAt "inc")).Sublist
          more := by
  have hroot : sampleIncludes.readDirectory "inc" = .ok sampleTree := by rfl
  have hreach : InReach "inc" sampleTree :=
    (inReach_iff ordered_sampleTree namesPlain_sampleTree).mpr (by decide +kernel)
  have hresult : (headers sampleIncludes .default "inc").result =
      .ok ([["a-b", "c.h.h"], ["arch", "x86", "io.h"], ["arch.h"]].map (headerAt "inc")) := by
    decide +kernel
  obtain ⟨hfinds, -, hwider⟩ := headers_exact hroot ordered_sampleTree namesPlain_sampleTree
  exact ⟨hroot, hreach, hfinds .default hreach, hresult,
    hwider .default ⟨[], ["x86"]⟩ (by decide) (by decide) _ hresult⟩

end SourceList

end CallForest
