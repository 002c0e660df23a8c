/-!
# Nodes and records of a call graph

A node is a function identified by the file it stands in and its name. A name that no record knows
becomes a node all the same; its file is then called `unknown`.
-/

namespace CallForest

/-- A function of the call graph: the short path of its file, and its name. -/
structure Node where
  path : String
  name : String
  deriving DecidableEq, Repr

namespace Node

/-- The path of a node whose name is not registered. -/
def unknownPath : String := "unknown"

/-- The node of a name that is not registered. -/
def unresolved (name : String) : Node := ⟨unknownPath, name⟩

/-- A node as it is shown: the name, then the path in parentheses. -/
def label (n : Node) : String :=
  n.name ++ " (" ++ n.path ++ ")"

end Node

/-- A recorded call. -/
structure Edge where
  caller : Node
  callee : Node
  deriving DecidableEq, Repr

/-- What the analyzer measures of a function: its cyclomatic number and its count of statements. -/
structure Complexity where
  cyclomatic : UInt32
  statements : UInt32
  deriving DecidableEq, Repr

/-- A function definition. -/
structure FunctionRecord where
  fullPath : String
  shortPath : String
  name : String
  line : UInt32
  signature : String
  complexity : Option Complexity
  deriving DecidableEq, Repr

/-- The node of a registered function; edges use the short path. -/
def FunctionRecord.node (r : FunctionRecord) : Node := ⟨r.shortPath, r.name⟩

/-- A source file. -/
structure FileRecord where
  fullPath : String
  shortPath : String
  lineCount : UInt64
  name : String
  deriving DecidableEq, Repr

end CallForest
