import CallForest.Graph.Node

/-!
# Stores

What a store of a call graph does. The first registration of a name or of a full path wins, and a
later one is refused. Recorded edges are never removed and may repeat; a node's callees are answered
once each, in the order in which they were first recorded.
-/

namespace CallForest

/-- Why a store refuses an operation. -/
inductive StoreError where
  /-- The name of a function, or the full path of a file, is registered already. -/
  | conflict (key : String)
  /-- No function of that name is registered. -/
  | notFound (name : String)
  deriving DecidableEq, Repr

/-- The text of a refusal. -/
def StoreError.message : StoreError → String
  | .conflict key => "function or file '" ++ key ++ "' is already registered"
  | .notFound name => "function '" ++ name ++ "' is not registered"

/-- The operations of a store with states in `σ`. -/
class GraphStore (σ : Type) where
  /-- The store that holds nothing. -/
  empty : σ
  registerFile : FileRecord → σ → Except StoreError σ
  registerFunction : FunctionRecord → σ → Except StoreError σ
  recordEdge : Edge → σ → σ
  /-- The record of a function name. -/
  lookup? : String → σ → Option FunctionRecord
  /-- The callees of a node, each once. -/
  children : Node → σ → List Node
  updateComplexity : String → Complexity → σ → Except StoreError σ
  /-- How many edges were recorded, repeated ones included. -/
  edgeCount : σ → Nat

/-- Keeps the first occurrence of each node that is not in `seen`. -/
def firstOccurrences (seen : List Node) : List Node → List Node
  | [] => []
  | n :: ns => if n ∈ seen then firstOccurrences seen ns else n :: firstOccurrences (n :: seen) ns

/-- Records edges one after another. -/
def recordEdges {σ : Type} [GraphStore σ] (edges : List Edge) (store : σ) : σ :=
  edges.foldl (fun s e => GraphStore.recordEdge e s) store

/-- The node that a name stands for: that of its record if there is one. -/
def resolveNode {σ : Type} [GraphStore σ] (store : σ) (name : String) : Option Node :=
  (GraphStore.lookup? name store).map FunctionRecord.node

end CallForest
