import CallForest.Text.Utf8

/-!
# Octets

Bytes written as characters: each character stands for the byte with its number. Programs that take
their input byte by byte, whatever it encodes, work on octets.
-/

namespace CallForest

/-- A sequence of bytes, each written as the character with its number. -/
abbrev Octets := List Char

namespace Octets

/-- Bytes as octets. -/
def ofBytes (bs : Bytes) : Octets := bs.map fun b => Char.ofNat b.toNat

/-- Octets as bytes. -/
def toBytes (s : Octets) : Bytes := s.map fun c => UInt8.ofNat c.toNat

/-- The octets of a text. -/
def ofText (s : String) : Octets := ofBytes (Utf8.encode s)

/-- The text that octets encode; what is no text is replaced. -/
def toText (s : Octets) : String := Utf8.decodeLossy (toBytes s)

/-- The lines of octets, each without the newline that ends it. -/
def lines (s : Octets) : List Octets :=
  match s.reverse with
  | [] => []
  | '\n' :: front => front.reverse.splitOn '\n'
  | _ => s.splitOn '\n'

/-- Lines, each ended by a newline. -/
def ofLines (lines : List Octets) : Octets := lines.flatMap (· ++ ['\n'])

end Octets

end CallForest
