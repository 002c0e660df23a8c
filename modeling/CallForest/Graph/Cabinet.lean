import CallForest.Graph.Store
import Std.Data.HashMap

/-!
# The cabinet: a store in memory, by keys

Files under their full paths, functions under their names, and for each caller its callees in the
order in which the calls were recorded. How many calls were recorded is kept beside them, so that
nothing has to be gone through to count them.
-/

namespace CallForest

deriving instance Hashable for Node

/-- A store that finds its entries by their keys. -/
structure Cabinet where
  files : Std.HashMap String FileRecord
  functions : Std.HashMap String FunctionRecord
  /-- The callees of each caller, repeated ones included. -/
  edges : Std.HashMap Node (List Node)
  edgeTotal : Nat

namespace Cabinet

/-- The cabinet without entries. -/
def empty : Cabinet := ⟨∅, ∅, ∅, 0⟩

/-- Enters a file unless its full path is taken. -/
def registerFile (f : FileRecord) (c : Cabinet) : Except StoreError Cabinet :=
  match c.files[f.fullPath]? with
  | some _ => .error (.conflict f.fullPath)
  | none => .ok { c with files := c.files.insert f.fullPath f }

/-- Enters a function unless its name is taken. -/
def registerFunction (r : FunctionRecord) (c : Cabinet) : Except StoreError Cabinet :=
  match c.functions[r.name]? with
  | some _ => .error (.conflict r.name)
  | none => .ok { c with functions := c.functions.insert r.name r }

/-- Enters a call behind those of its caller, and counts it. -/
def recordEdge (e : Edge) (c : Cabinet) : Cabinet :=
  { c with
    edges := c.edges.insert e.caller (c.edges.getD e.caller [] ++ [e.callee])
    edgeTotal := c.edgeTotal + 1 }

/-- The record of a function name. -/
def function? (name : String) (c : Cabinet) : Option FunctionRecord :=
  c.functions[name]?

/-- The callees recorded for a node, in order, repeated ones included. -/
def callees (n : Node) (c : Cabinet) : List Node :=
  c.edges.getD n []

/-- The callees recorded for a node, each once. -/
def children (n : Node) (c : Cabinet) : List Node :=
  match c.edges[n]? with
  | some ns => firstOccurrences [] ns
  | none => []

/-- Sets the metrics of the function of that name. -/
def updateComplexity (name : String) (m : Complexity) (c : Cabinet) : Except StoreError Cabinet :=
  match c.functions[name]? with
  | none => .error (.notFound name)
  | some r => .ok { c with functions := c.functions.insert name { r with complexity := some m } }

instance : GraphStore Cabinet where
  empty := empty
  registerFile := registerFile
  registerFunction := registerFunction
  recordEdge := recordEdge
  lookup? := function?
  children := children
  updateComplexity := updateComplexity
  edgeCount := edgeTotal

end Cabinet

end CallForest
