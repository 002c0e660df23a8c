import CallForest.Graph.Store

/-!
# The ledger: a store in memory

Files, functions and edges as lists in the order in which they were entered. A ledger is also the
plain view of any store: the list of edges shows which calls were recorded, in which order, and how
often.
-/

namespace CallForest

/-- A store that keeps its entries in the order of their arrival. -/
structure Ledger where
  files : List FileRecord
  functions : List FunctionRecord
  edges : List Edge
  deriving DecidableEq, Repr

namespace Ledger

/-- The ledger without entries. -/
def empty : Ledger := ⟨[], [], []⟩

/-- The record of a full path. -/
def file? (fullPath : String) (l : Ledger) : Option FileRecord :=
  l.files.find? fun f => f.fullPath = fullPath

/-- The record of a function name. -/
def function? (name : String) (l : Ledger) : Option FunctionRecord :=
  l.functions.find? fun r => r.name = name

/-- Enters a file unless its full path is taken. -/
def registerFile (f : FileRecord) (l : Ledger) : Except StoreError Ledger :=
  match l.file? f.fullPath with
  | some _ => .error (.conflict f.fullPath)
  | none => .ok { l with files := l.files ++ [f] }

/-- Enters a function unless its name is taken. -/
def registerFunction (r : FunctionRecord) (l : Ledger) : Except StoreError Ledger :=
  match l.function? r.name with
  | some _ => .error (.conflict r.name)
  | none => .ok { l with functions := l.functions ++ [r] }

/-- Enters a call. -/
def recordEdge (e : Edge) (l : Ledger) : Ledger :=
  { l with edges := l.edges ++ [e] }

/-- The callees recorded for a node, in order, repeated ones included. -/
def callees (n : Node) (l : Ledger) : List Node :=
  (l.edges.filter fun e => e.caller = n).map Edge.callee

/-- The callees recorded for a node, each once. -/
def children (n : Node) (l : Ledger) : List Node :=
  firstOccurrences [] (l.callees n)

/-- The nodes that call something, in the order of their first call. -/
def callers (l : Ledger) : List Node :=
  firstOccurrences [] (l.edges.map Edge.caller)

/-- Sets the metrics of the function of that name. -/
def updateComplexity (name : String) (c : Complexity) (l : Ledger) : Except StoreError Ledger :=
  match l.function? name with
  | none => .error (.notFound name)
  | some _ =>
    .ok { l with functions :=
      l.functions.map fun r => if r.name = name then { r with complexity := some c } else r }

instance : GraphStore Ledger where
  empty := empty
  registerFile := registerFile
  registerFunction := registerFunction
  recordEdge := recordEdge
  lookup? := function?
  children := children
  updateComplexity := updateComplexity
  edgeCount l := l.edges.length

end Ledger

end CallForest
