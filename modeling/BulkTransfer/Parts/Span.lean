import BulkTransfer.Number.Decimal
import BulkTransfer.Parts.Limits
import BulkTransfer.Text.Cut

/-!
# Spans of parts

The ranges of bytes into which a transfer of known size is cut, their form in request headers, and
the reading of such a header for an object.
-/

namespace BulkTransfer

/-- The span of one part of a transfer: its number, counted from one, its first and last byte, and
whether it is the final one. -/
structure PartSpan where
  number : Nat
  first : Nat
  last : Nat
  isFinal : Bool
  deriving DecidableEq, Repr

namespace PartSpan

/-- The number of bytes in the range. -/
def length (range : PartSpan) : Nat :=
  range.last - range.first + 1

/-- The header value for exactly the range. -/
def boundedHeader (range : PartSpan) : String :=
  "bytes=" ++ toString range.first ++ "-" ++ toString range.last

/-- The header value for the range, without an end if it is the final one. -/
def openHeader (range : PartSpan) : String :=
  if range.isFinal then "bytes=" ++ toString range.first ++ "-" else range.boundedHeader

/-- The range of the part with the given index when `size` bytes are cut into pieces of
`chunksize`. The index is below the number of parts. -/
def ofIndex (size chunksize index : Nat) : PartSpan :=
  let first := index * chunksize
  let last := min (min (first + chunksize) Word.largest64) size - 1
  ⟨index + 1, first, last, last + 1 = size⟩

/-- The first byte and the byte after the last one that a range header asks for in an object of
`size` bytes, if it can be satisfied. -/
def readHeader? (header : String) (size : Nat) : Option (Nat × Nat) := do
  let body ← Text.after? "bytes=".toList header.toList
  let (first, last) ← Text.cut? '-' body
  let first ← Decimal.read64? first
  let stop ← if last.isEmpty then some size else
    (Decimal.read64? last).map fun last => min (min (last + 1) Word.largest64) size
  if first ≤ stop then some (first, stop) else none

end PartSpan
end BulkTransfer
