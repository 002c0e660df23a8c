import CallForest.Graph.Node
import CallForest.Text.Utf8

/-!
# Records as bytes

The binary form of nodes and records: the fields in the order of their declaration; a text is its
length in eight bytes, lowest first, and its UTF-8 bytes; a number has its full width, lowest byte
first; an optional value is one byte, 0 or 1, and the value if it is there.
-/

namespace CallForest

namespace Encode

/-- The `width` lowest bytes of a number, lowest first. -/
def littleEndian : Nat → Nat → Bytes
  | 0, _ => []
  | width + 1, n => UInt8.ofNat n :: littleEndian width (n / 256)

/-- The `width` lowest bytes of a number, highest first. -/
def bigEndian (width n : Nat) : Bytes :=
  (littleEndian width n).reverse

/-- A sequence of bytes behind its length. -/
def block (bs : Bytes) : Bytes :=
  littleEndian 8 bs.length ++ bs

/-- A text. -/
def text (s : String) : Bytes :=
  block (Utf8.encode s)

/-- A number of 32 bits. -/
def word32 (w : UInt32) : Bytes :=
  littleEndian 4 w.toNat

/-- A number of 64 bits. -/
def word64 (w : UInt64) : Bytes :=
  littleEndian 8 w.toNat

/-- A node. -/
def node (n : Node) : Bytes :=
  text n.path ++ text n.name

/-- The metrics of a function, if it has any. -/
def complexity : Option Complexity → Bytes
  | none => [0]
  | some c => 1 :: (word32 c.cyclomatic ++ word32 c.statements)

/-- A function record. -/
def function (r : FunctionRecord) : Bytes :=
  text r.fullPath ++ text r.shortPath ++ text r.name ++ word32 r.line ++ text r.signature ++
    complexity r.complexity

/-- A file record. -/
def file (f : FileRecord) : Bytes :=
  text f.fullPath ++ text f.shortPath ++ word64 f.lineCount ++ text f.name

end Encode

namespace Decode

/-- The number that bytes form, lowest first. -/
def ofLittleEndian : Bytes → Nat
  | [] => 0
  | b :: bs => b.toNat + 256 * ofLittleEndian bs

/-- Takes exactly `n` bytes. -/
def take (n : Nat) (bs : Bytes) : Option (Bytes × Bytes) :=
  if n ≤ bs.length then some (bs.take n, bs.drop n) else none

/-- Reads a number of `width` bytes. -/
def littleEndian (width : Nat) (bs : Bytes) : Option (Nat × Bytes) :=
  (take width bs).map fun (w, rest) => (ofLittleEndian w, rest)

/-- Reads a sequence of bytes behind its length. -/
def block (bs : Bytes) : Option (Bytes × Bytes) :=
  (littleEndian 8 bs).bind fun (n, rest) => take n rest

/-- Reads a text. -/
def text (bs : Bytes) : Option (String × Bytes) :=
  (block bs).bind fun (s, rest) => (Utf8.decode? s).map fun t => (t, rest)

/-- Reads a number of 32 bits. -/
def word32 (bs : Bytes) : Option (UInt32 × Bytes) :=
  (littleEndian 4 bs).map fun (n, rest) => (UInt32.ofNat n, rest)

/-- Reads a number of 64 bits. -/
def word64 (bs : Bytes) : Option (UInt64 × Bytes) :=
  (littleEndian 8 bs).map fun (n, rest) => (UInt64.ofNat n, rest)

/-- Reads a node. -/
def node (bs : Bytes) : Option (Node × Bytes) := do
  let (path, bs) ← text bs
  let (name, bs) ← text bs
  return (⟨path, name⟩, bs)

/-- Reads the metrics of a function, if it has any. -/
def complexity : Bytes → Option (Option Complexity × Bytes)
  | [] => none
  | tag :: bs =>
    if tag = 0 then some (none, bs)
    else if tag = 1 then do
      let (cyclomatic, bs) ← word32 bs
      let (statements, bs) ← word32 bs
      return (some ⟨cyclomatic, statements⟩, bs)
    else none

/-- Reads a function record. -/
def function (bs : Bytes) : Option (FunctionRecord × Bytes) := do
  let (fullPath, bs) ← text bs
  let (shortPath, bs) ← text bs
  let (name, bs) ← text bs
  let (line, bs) ← word32 bs
  let (signature, bs) ← text bs
  let (metrics, bs) ← complexity bs
  return (⟨fullPath, shortPath, name, line, signature, metrics⟩, bs)

/-- Reads a file record. -/
def file (bs : Bytes) : Option (FileRecord × Bytes) := do
  let (fullPath, bs) ← text bs
  let (shortPath, bs) ← text bs
  let (lineCount, bs) ← word64 bs
  let (name, bs) ← text bs
  return (⟨fullPath, shortPath, lineCount, name⟩, bs)

end Decode

end CallForest
