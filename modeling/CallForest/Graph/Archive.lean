import CallForest.Bytes.Codec
import CallForest.Bytes.KeyMap
import CallForest.Graph.Store

/-!
# The archive: a store of byte strings

The store that lasts from one run to the next. Files are kept under their full path, functions under
their name, and each edge under its encoded caller followed by a number that grows with every edge,
highest byte first. So the edges of one caller share a stem that no other caller's keys have, and
stand in the order in which they were recorded.

`image` is the archive as one byte string, and `ofImage?` reads it back.
-/

namespace CallForest

/-- A store of three ordered maps and the number of the next edge. -/
structure Archive where
  files : KeyMap
  functions : KeyMap
  edges : KeyMap
  nextId : Nat
  deriving DecidableEq, Repr

namespace Archive

/-- The archive without entries. -/
def empty : Archive := ⟨[], [], [], 0⟩

/-- The key under which an edge with that caller and number is kept. -/
def edgeKey (caller : Node) (id : Nat) : Bytes :=
  Encode.node caller ++ Encode.bigEndian 8 id

/-- Enters a value under a key that is still free. -/
def insertNew (key : String) (value : Bytes) (m : KeyMap) : Except StoreError KeyMap :=
  match m.find? (Utf8.encode key) with
  | some _ => .error (.conflict key)
  | none => .ok (m.insert (Utf8.encode key) value)

/-- Enters a file unless its full path is taken. -/
def registerFile (f : FileRecord) (a : Archive) : Except StoreError Archive :=
  (insertNew f.fullPath (Encode.file f) a.files).map fun m => { a with files := m }

/-- Enters a function unless its name is taken. -/
def registerFunction (r : FunctionRecord) (a : Archive) : Except StoreError Archive :=
  (insertNew r.name (Encode.function r) a.functions).map fun m => { a with functions := m }

/-- Enters a call under the next number. -/
def recordEdge (e : Edge) (a : Archive) : Archive :=
  { a with
    edges := a.edges.insert (edgeKey e.caller a.nextId) (Encode.node e.callee)
    nextId := a.nextId + 1 }

/-- The record of a function name. -/
def function? (name : String) (a : Archive) : Option FunctionRecord :=
  (a.functions.find? (Utf8.encode name)).bind fun v => (Decode.function v).map Prod.fst

/-- The callees recorded for a node, in the order of their keys, repeated ones included. -/
def callees (n : Node) (a : Archive) : List Node :=
  (a.edges.scan (Encode.node n)).filterMap fun e => (Decode.node e.2).map Prod.fst

/-- The callees recorded for a node, each once. -/
def children (n : Node) (a : Archive) : List Node :=
  firstOccurrences [] (a.callees n)

/-- Sets the metrics of the function of that name: its record is read, changed and written. -/
def updateComplexity (name : String) (c : Complexity) (a : Archive) : Except StoreError Archive :=
  match a.function? name with
  | none => .error (.notFound name)
  | some r =>
    .ok { a with functions :=
      a.functions.insert (Utf8.encode name) (Encode.function { r with complexity := some c }) }

instance : GraphStore Archive where
  empty := empty
  registerFile := registerFile
  registerFunction := registerFunction
  recordEdge := recordEdge
  lookup? := function?
  children := children
  updateComplexity := updateComplexity
  edgeCount a := a.edges.length

/-! ## The image of an archive -/

/-- The entries of a map behind their number. -/
def mapImage (m : KeyMap) : Bytes :=
  Encode.littleEndian 8 m.length ++ m.flatMap fun e => Encode.block e.1 ++ Encode.block e.2

/-- The archive as one byte string. -/
def image (a : Archive) : Bytes :=
  mapImage a.files ++ mapImage a.functions ++ mapImage a.edges ++ Encode.littleEndian 8 a.nextId

/-- Reads `count` entries. -/
def readEntries : Nat → Bytes → Option (KeyMap × Bytes)
  | 0, bs => some ([], bs)
  | count + 1, bs => do
    let (key, bs) ← Decode.block bs
    let (value, bs) ← Decode.block bs
    let (m, bs) ← readEntries count bs
    return ((key, value) :: m, bs)

/-- Reads the entries of a map behind their number. -/
def readMap (bs : Bytes) : Option (KeyMap × Bytes) :=
  (Decode.littleEndian 8 bs).bind fun (count, bs) => readEntries count bs

/-- Reads an archive from its image. -/
def ofImage? (bs : Bytes) : Option Archive := do
  let (files, bs) ← readMap bs
  let (functions, bs) ← readMap bs
  let (edges, bs) ← readMap bs
  let (nextId, _) ← Decode.littleEndian 8 bs
  return ⟨files, functions, edges, nextId⟩

end Archive

end CallForest
