import CallForest.LogDirectory
import CallForest.Source
import CallForest.Proofs.Files.Outputs

/-!
# Where raw output goes

The path of raw output is the log directory's, with two names behind it: that of the kind, and one
made of the short path, slashes as hyphens (`pieces_dumpPath`). So the paths of two outputs are the
same just when the kinds are and the short paths are up to that (`dumpPath_eq_iff`), and the outputs
of one kind stand in one directory (`separate_dumpPaths`).
-/

namespace CallForest

namespace Path

variable {name : String}

theorem pieces_append_slash_append (front rest : String) :
    pieces (front ++ "/" ++ rest) = pieces front ++ pieces rest := by
  have hchars : (front ++ "/" ++ rest).toList = front.toList ++ '/' :: rest.toList := by
    simp [String.toList_append]
  have hsplit : (front.toList ++ '/' :: rest.toList).splitOn '/' =
      front.toList.splitOn '/' ++ rest.toList.splitOn '/' := by
    simp only [List.splitOn_eq_splitOnP]
    exact List.splitOnP_append_cons _ _ rfl
  rw [pieces, hchars, hsplit, List.filter_append, List.map_append]
  rfl

theorem pieces_empty : pieces "" = [] := rfl

/-- A name is not absolute. -/
theorem isAbsolute_of_not_mem (hslash : '/' ∉ name.toList) : isAbsolute name = false := by
  rw [isAbsolute, beq_eq_false_iff_ne]
  exact fun h => hslash (List.mem_of_mem_head? h)

/-- A name is its only piece. -/
theorem pieces_of_not_mem (hslash : '/' ∉ name.toList) (hne : name ≠ "") :
    pieces name = [name] := by
  have hnonempty : name.toList.isEmpty = false :=
    List.isEmpty_eq_false_iff.mpr fun h => hne (String.ext h)
  rw [pieces, List.splitOn_eq_singleton hslash, List.filter_cons, hnonempty]
  exact congrArg ([·]) String.ofList_toList

/-- What is joined to a path is behind it. -/
theorem pieces_join {path : String} (h : isAbsolute path = false) (root : String) :
    pieces (join root path) = pieces root ++ pieces path := by
  rw [join, h, if_neg Bool.false_ne_true]
  split
  · next hends =>
    obtain hempty | hlast := Bool.or_eq_true_iff.mp hends
    · rw [String.isEmpty_iff.mp hempty, String.empty_append, pieces_empty, List.nil_append]
    · obtain ⟨cs, hcs⟩ := List.getLast?_eq_some_iff.mp (eq_of_beq hlast)
      obtain rfl : root = String.ofList cs ++ "/" ++ "" := String.ext (by simp [hcs])
      rw [pieces_append_slash_append, pieces_empty, List.append_nil, String.append_empty,
        pieces_append_slash_append]
  · exact pieces_append_slash_append root path

theorem pieces_join_name (hslash : '/' ∉ name.toList) (hne : name ≠ "") (root : String) :
    pieces (join root name) = pieces root ++ [name] := by
  rw [pieces_join (isAbsolute_of_not_mem hslash), pieces_of_not_mem hslash hne]

theorem isAbsolute_append_of_ne {root : String} (hroot : root ≠ "") (rest : String) :
    isAbsolute (root ++ rest) = isAbsolute root := by
  obtain ⟨c, cs, hcs⟩ := List.exists_cons_of_ne_nil fun hnil => hroot (String.ext hnil)
  rw [isAbsolute, isAbsolute, String.toList_append, hcs]
  rfl

/-- What is joined to a path does not make it absolute. -/
theorem isAbsolute_join_of_ne {root path : String} (hroot : root ≠ "")
    (h : isAbsolute path = false) : isAbsolute (join root path) = isAbsolute root := by
  rw [join, h, if_neg Bool.false_ne_true]
  split
  · exact isAbsolute_append_of_ne hroot path
  · rw [String.append_assoc]
    exact isAbsolute_append_of_ne hroot _

/-- A path that ends in a name asks for no directory. -/
theorem asksForDirectory_append (hslash : '/' ∉ name.toList) (hne : name ≠ "") (front : String) :
    FileSystem.asksForDirectory (front ++ name) = false := by
  rw [FileSystem.asksForDirectory, String.toList_append, List.getLast?_append,
    beq_eq_false_iff_ne]
  cases hc : name.toList.getLast? with
  | none => exact absurd (String.ext (List.getLast?_eq_none_iff.mp hc)) hne
  | some c =>
      rintro ⟨⟩
      exact hslash (List.mem_of_getLast? hc)

/-- A path that a name is joined to asks for no directory. -/
theorem asksForDirectory_join (hslash : '/' ∉ name.toList) (hne : name ≠ "") (root : String) :
    FileSystem.asksForDirectory (join root name) = false := by
  rw [join, isAbsolute_of_not_mem hslash, if_neg Bool.false_ne_true]
  split
  · exact asksForDirectory_append hslash hne root
  · exact asksForDirectory_append hslash hne (root ++ "/")

end Path

namespace DumpKind

theorem not_mem_directory (kind : DumpKind) : '/' ∉ kind.directory.toList := by
  cases kind <;> decide

theorem directory_ne (kind : DumpKind) : kind.directory ≠ "" := by
  cases kind <;> decide

theorem directory_inj {kind other : DumpKind} (h : kind.directory = other.directory) :
    kind = other := by
  revert h
  cases kind <;> cases other <;> decide

end DumpKind

namespace LogDirectory

variable {d : LogDirectory} {kind other : DumpKind} {p q : String}

/-- The name that raw output for a source file gets. -/
def outputName (shortPath : String) : String :=
  hyphenated shortPath ++ ".log"

theorem outputName_ne (c : String) (hc : c.length < 4) : outputName p ≠ c := by
  intro h
  have hlength := congrArg String.length h
  rw [outputName, String.length_append] at hlength
  have hlog : (".log" : String).length = 4 := rfl
  omega

theorem not_mem_hyphenated (p : String) : '/' ∉ (hyphenated p).toList := by
  rw [hyphenated, String.toList_ofList]
  intro h
  obtain ⟨c, -, hc⟩ := List.mem_map.mp h
  split at hc
  · cases hc
  · next hne => exact hne hc

theorem not_mem_outputName (p : String) : '/' ∉ (outputName p).toList := by
  rw [outputName, String.toList_append, List.mem_append]
  exact fun h => h.elim (not_mem_hyphenated p) (by decide)

/-- The names are the same just when the short paths are, up to slashes and hyphens. -/
theorem outputName_eq_iff : outputName p = outputName q ↔ hyphenated p = hyphenated q :=
  String.append_left_inj _

theorem pieces_kindPath (d : LogDirectory) (kind : DumpKind) :
    Path.pieces (d.kindPath kind) = Path.pieces d.root ++ [kind.directory] :=
  Path.pieces_join_name kind.not_mem_directory kind.directory_ne d.root

/-- The names on the path of raw output. -/
theorem pieces_dumpPath (d : LogDirectory) (kind : DumpKind) (p : String) :
    Path.pieces (d.dumpPath kind p) =
      Path.pieces d.root ++ [kind.directory] ++ [outputName p] := by
  rw [← pieces_kindPath]
  exact Path.pieces_join_name (not_mem_outputName p) (outputName_ne "" (by decide)) _

/-- **Paths of raw output are the same** just when the kinds are and the short paths are, up to
slashes and hyphens. -/
theorem dumpPath_eq_iff :
    d.dumpPath kind p = d.dumpPath other q ↔ kind = other ∧ hyphenated p = hyphenated q := by
  constructor
  · intro h
    have hpieces := congrArg Path.pieces h
    simp only [pieces_dumpPath, List.append_assoc] at hpieces
    have hnames := List.append_cancel_left hpieces
    injection hnames with hdirectory hrest
    injection hrest with hname
    exact ⟨DumpKind.directory_inj hdirectory, outputName_eq_iff.mp hname⟩
  · rintro ⟨rfl, h⟩
    rw [dumpPath, dumpPath, h]

/-- Short paths that differ, and the one path of their output. -/
example : ["mm/slab.c", "mm-slab.c"].map (LogDirectory.dumpPath ⟨"log", true⟩ .edges) =
    ["log/edges/mm-slab.c.log", "log/edges/mm-slab.c.log"] := by
  decide +kernel

/-- Where the raw output of a kind for listed files goes. -/
def dumpPaths (d : LogDirectory) (kind : DumpKind) (entries : List SourceEntry) : List String :=
  entries.map fun entry => d.dumpPath kind entry.shortPath

theorem asksForDirectory_dumpPath (d : LogDirectory) (kind : DumpKind) (p : String) :
    FileSystem.asksForDirectory (d.dumpPath kind p) = false :=
  Path.asksForDirectory_join (not_mem_outputName p) (outputName_ne "" (by decide)) _

theorem isAbsolute_dumpPath (d : LogDirectory) (kind : DumpKind) (p : String) :
    Path.isAbsolute (d.dumpPath kind p) = Path.isAbsolute (d.kindPath kind) := by
  refine Path.isAbsolute_join_of_ne (fun h => ?_)
    (Path.isAbsolute_of_not_mem (not_mem_outputName p))
  have hpieces := congrArg Path.pieces h
  rw [pieces_kindPath] at hpieces
  exact List.concat_ne_nil _ _ hpieces

/-- **Outputs of one kind are kept apart** if none of them is a link. -/
theorem separate_dumpPaths {fs : FileSystem} {entries : List SourceEntry}
    (hown : fs.OwnFiles (d.dumpPaths kind entries))
    (hlink : ∀ o ∈ d.dumpPaths kind entries, fs.leadsTo? true o = fs.leadsTo? false o) :
    fs.Separate (d.dumpPaths kind entries) where
  toOwnFiles := hown
  location_ne o ho o' ho' hne l hl hl' := by
    rw [hlink o ho] at hl
    rw [hlink o' ho'] at hl'
    obtain ⟨entry, -, rfl⟩ := List.mem_map.mp ho
    obtain ⟨entry', -, rfl⟩ := List.mem_map.mp ho'
    have hends {p : String} {l : List String}
        (h : fs.leadsTo? false (d.dumpPath kind p) = some l) :=
      FileSystem.leadsTo?_false_concat (pieces_dumpPath d kind p) (outputName_ne "." (by decide))
        (outputName_ne ".." (by decide)) (asksForDirectory_dumpPath d kind p) h
    obtain ⟨base, hbase, rfl⟩ := hends hl
    obtain ⟨base', hbase', hl⟩ := hends hl'
    -- both names are looked for in the directory of the kind
    rw [isAbsolute_dumpPath] at hbase hbase'
    cases hbase.symm.trans hbase'
    have hname := List.singleton_inj.mp (List.append_cancel_left hl)
    exact hne (dumpPath_eq_iff.mpr ⟨rfl, outputName_eq_iff.mp hname⟩)

end LogDirectory

end CallForest
