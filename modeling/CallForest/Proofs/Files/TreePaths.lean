import CallForest.Tree.Export
import CallForest.Xref
import CallForest.Proofs.Files.DumpPaths
import CallForest.Proofs.Text.Decimal

/-!
# Where call trees are drawn

A call tree goes to a file that is named for its function, the depth and the form (`treeName`). The
name tells all three, because neither a number nor an extension has a hyphen (`treeName_inj`).

The name of the function stands in it as it is, slashes included. So trees are kept apart, directly
in the log directory, just as long as no function's name has a slash (`keepsTrees_iff`). A listing
may define such a function, and its tree goes elsewhere (`not_keepsTrees`).
-/

namespace CallForest

namespace Text

/-- A text is cut at the last of a character in one way only. -/
theorem append_cons_inj_of_not_mem {front front' rest rest' : List Char} {c : Char}
    (hrest : c ∉ rest) (hrest' : c ∉ rest')
    (h : front ++ c :: rest = front' ++ c :: rest') : front = front' ∧ rest = rest' := by
  have hnothing : ∀ {between behind behind' : List Char}, c ∉ behind →
      c :: behind = between ++ c :: behind' → between = [] ∧ behind = behind' := by
    intro between behind behind' hbehind hcut
    cases between with
    | nil => exact ⟨rfl, (List.cons.inj hcut).2⟩
    | cons b bs =>
        rw [(List.cons.inj hcut).2] at hbehind
        exact absurd (List.mem_append_right bs List.mem_cons_self) hbehind
  obtain ⟨between, rfl, hcut⟩ | ⟨between, rfl, hcut⟩ := List.append_eq_append_iff.mp h
  · obtain ⟨rfl, rfl⟩ := hnothing hrest hcut
    exact ⟨(List.append_nil front).symm, rfl⟩
  · obtain ⟨rfl, rfl⟩ := hnothing hrest' hcut
    exact ⟨List.append_nil front', rfl⟩

end Text

namespace Path

/-- A path to a name that stands in a directory, and not further inside. -/
def IsDirectlyIn (root path : String) : Prop :=
  ∃ name, '/' ∉ name.toList ∧ name ≠ "" ∧ name ≠ "." ∧ name ≠ ".." ∧ path = join root name

theorem components_join_name {name : String} (hslash : '/' ∉ name.toList) (hne : name ≠ "")
    (hdot : name ≠ ".") (root : String) :
    components (join root name) = components root ++ [name] := by
  have hfilter : [name].filter (· ≠ ".") = [name] := by simp [hdot]
  rw [components, pieces_join_name hslash hne, components]
  cases hroot : pieces root with
  | nil => simp [hdot]
  | cons p ps =>
      have hempty : root ≠ "" := by
        rintro rfl
        cases hroot
      rw [List.cons_append]
      dsimp only
      rw [isAbsolute_join_of_ne hempty (isAbsolute_of_not_mem hslash), List.filter_append, hfilter]
      split <;> rfl

theorem join_empty (path : String) : join "" path = path := by
  unfold join
  split
  · rfl
  · exact String.empty_append

end Path

/-- What stands behind the hyphen in the name of a tree's file. -/
def treeEnding (depth : Nat) (format : TreeFormat) : List Char :=
  match format with
  | .text => Text.decimal depth
  | .json => Text.decimal depth ++ '.' :: "json".toList

/-- The name of a tree's file. -/
def treeName (function : String) (depth : Nat) (format : TreeFormat) : String :=
  function ++ "-" ++ String.ofList (treeEnding depth format)

namespace LogDirectory

/-- The trees of functions with such names are kept: each in the log directory, and none in the
place of another or of raw output. -/
structure KeepsTrees (d : LogDirectory) (Name : String → Prop) : Prop where
  isDirectlyIn : ∀ f depth (format : TreeFormat), Name f →
    Path.IsDirectlyIn d.root (d.treePath f depth format.extension?)
  ne_kindPath : ∀ f depth (format : TreeFormat) kind, Name f →
    Path.components (d.treePath f depth format.extension?) ≠ Path.components (d.kindPath kind)
  injective : ∀ f g m n (format format' : TreeFormat), Name f → Name g →
    Path.components (d.treePath f m format.extension?) =
        Path.components (d.treePath g n format'.extension?) →
      f = g ∧ m = n ∧ format = format'

/-- A name that is defined in some cross-reference listing. -/
def Registrable (name : String) : Prop :=
  ∃ listing, ∃ d ∈ Xref.definitions listing, d.name = name

end LogDirectory

/-! ## Names of files -/

section Name

variable {f g : String} {m n depth : Nat} {format format' : TreeFormat}

theorem toList_treeName (f : String) (depth : Nat) (format : TreeFormat) :
    (treeName f depth format).toList = f.toList ++ '-' :: treeEnding depth format := by
  simp [treeName, String.toList_append]

/-- An ending is digits, a point and letters. -/
theorem not_mem_treeEnding {c : Char} (hc : ∀ d < 10, c ≠ Text.digit d)
    (hjson : c ∉ '.' :: "json".toList) (depth : Nat) (format : TreeFormat) :
    c ∉ treeEnding depth format := by
  cases format with
  | text => exact Text.not_mem_decimal hc depth
  | json => exact List.not_mem_append (Text.not_mem_decimal hc depth) hjson

theorem treeEnding_inj (h : treeEnding m format = treeEnding n format') :
    m = n ∧ format = format' := by
  have hpoint : ∀ k, '.' ∉ Text.decimal k := Text.not_mem_decimal (by decide)
  have hjson : ∀ k, '.' ∈ treeEnding k .json := fun k =>
    List.mem_append_right (Text.decimal k) List.mem_cons_self
  cases format <;> cases format'
  case text.text => exact ⟨Text.decimal_inj.mp h, rfl⟩
  case text.json => exact absurd (h ▸ hjson n : '.' ∈ treeEnding m .text) (hpoint m)
  case json.text => exact absurd (h ▸ hjson m : '.' ∈ treeEnding n .text) (hpoint n)
  case json.json => exact ⟨Text.decimal_inj.mp (List.append_cancel_right h), rfl⟩

/-- The name of a tree's file tells the function, the depth and the form. -/
theorem treeName_inj (h : treeName f m format = treeName g n format') :
    f = g ∧ m = n ∧ format = format' := by
  have hchars := congrArg String.toList h
  rw [toList_treeName, toList_treeName] at hchars
  obtain ⟨hfunction, hending⟩ := Text.append_cons_inj_of_not_mem
    (not_mem_treeEnding (by decide) (by decide) m format)
    (not_mem_treeEnding (by decide) (by decide) n format') hchars
  exact ⟨String.toList_injective hfunction, treeEnding_inj hending⟩

theorem slash_mem_treeName_iff : '/' ∈ (treeName f depth format).toList ↔ '/' ∈ f.toList := by
  have hending : '/' ∉ '-' :: treeEnding depth format :=
    List.not_mem_cons_of_ne_of_not_mem (by decide) <|
      not_mem_treeEnding (by decide) (by decide) depth format
  rw [toList_treeName, List.mem_append]
  exact or_iff_left hending

/-- A name without a hyphen is that of no tree's file. -/
theorem treeName_ne {name : String} (hname : '-' ∉ name.toList) :
    treeName f depth format ≠ name := by
  rintro rfl
  rw [toList_treeName] at hname
  exact hname (List.mem_append_right _ List.mem_cons_self)

end Name

namespace LogDirectory

theorem treePath_eq (d : LogDirectory) (f : String) (depth : Nat) (format : TreeFormat) :
    d.treePath f depth format.extension? = Path.join d.root (treeName f depth format) := by
  refine congrArg (Path.join d.root) (String.ext ?_)
  rw [toList_treeName]
  cases format <;> simp [TreeFormat.extension?, treeEnding, String.toList_append]

theorem keepsTrees (d : LogDirectory) : d.KeepsTrees fun f => '/' ∉ f.toList := by
  have hslash : ∀ {f depth format}, '/' ∉ f.toList → '/' ∉ (treeName f depth format).toList :=
    (not_congr slash_mem_treeName_iff).mpr
  have hcomponents : ∀ f depth (format : TreeFormat), '/' ∉ f.toList →
      Path.components (d.treePath f depth format.extension?) =
        Path.components d.root ++ [treeName f depth format] := fun f depth format hf => by
    rw [treePath_eq]
    exact Path.components_join_name (hslash hf) (treeName_ne (by decide)) (treeName_ne (by decide))
      d.root
  refine ⟨fun f depth format hf => ?_, fun f depth format kind hf h => ?_,
    fun f g m n format format' hf hg h => ?_⟩
  · exact ⟨treeName f depth format, hslash hf, treeName_ne (by decide), treeName_ne (by decide),
      treeName_ne (by decide), d.treePath_eq f depth format⟩
  · rw [hcomponents f depth format hf, kindPath,
      Path.components_join_name kind.not_mem_directory kind.directory_ne
        (by cases kind <;> decide)] at h
    -- the directories of raw output have no hyphen
    have hname := List.singleton_inj.mp (List.append_cancel_left h)
    exact treeName_ne (by cases kind <;> decide) hname
  · rw [hcomponents f m format hf, hcomponents g n format' hg] at h
    exact treeName_inj (List.singleton_inj.mp (List.append_cancel_left h))

/-- **Trees are kept in the log directory**, whichever it is, just as long as no function's name has
a slash. -/
theorem keepsTrees_iff (Name : String → Prop) :
    (∀ d : LogDirectory, d.KeepsTrees Name) ↔ ∀ f, Name f → '/' ∉ f.toList := by
  constructor
  · intro h f hf hslash
    obtain ⟨name, hname, -, -, -, hpath⟩ := (h ⟨"", false⟩).isDirectlyIn f 0 .text hf
    rw [treePath_eq, Path.join_empty, Path.join_empty] at hpath
    exact hname (hpath ▸ slash_mem_treeName_iff.mpr hslash)
  · intro h d
    have hkeeps := d.keepsTrees
    exact ⟨fun f depth format hf => hkeeps.isDirectlyIn f depth format (h f hf),
      fun f depth format kind hf => hkeeps.ne_kindPath f depth format kind (h f hf),
      fun f g m n format format' hf hg =>
        hkeeps.injective f g m n format format' (h f hf) (h g hg)⟩

/-- Names that differ, and the one path of their trees. -/
example : ["main", "/log/main"].map (fun f => treePath ⟨"/log", false⟩ f 0 none) =
    ["/log/main-0", "/log/main-0"] := by
  decide +kernel

/-- **A listing may define a function whose tree is drawn outside of the log directory.** -/
theorem not_keepsTrees_registrable : ¬∀ d : LogDirectory, d.KeepsTrees Registrable := by
  intro h
  have hregistrable : Registrable "../main" :=
    ⟨"../main * a.c:1 int main (void)\n", ⟨"../main", 1, "int main (void)"⟩, by decide +kernel, rfl⟩
  obtain ⟨name, hname, hne, -, -, hpath⟩ :=
    (h ⟨"log", false⟩).isDirectlyIn "../main" 0 .text hregistrable
  have hpieces : ["log", "..", "main-0"] = ["log", name] :=
    calc ["log", "..", "main-0"]
        = Path.pieces (treePath ⟨"log", false⟩ "../main" 0 none) := by decide +kernel
      _ = Path.pieces (Path.join "log" name) := congrArg Path.pieces hpath
      _ = Path.pieces "log" ++ [name] := Path.pieces_join_name hname hne "log"
      _ = ["log", name] := by rw [show Path.pieces "log" = ["log"] by decide +kernel]; rfl
  exact absurd (congrArg List.length hpieces) (by simp)

end LogDirectory

end CallForest
