import BulkTransfer.Error
import BulkTransfer.Number.Word

/-!
# Limits of a provider

How large and how many the parts of a multipart transfer may be. A wanted chunksize is brought
into the allowed range, and grows when the total would otherwise need too many parts.
-/

namespace BulkTransfer

/-- One mebibyte. -/
def mebibyte : Nat := 1024 * 1024

/-- The limits of a provider for single requests and multipart transfers. -/
structure Limits where
  minChunksize : Nat := 5 * mebibyte
  maxSingleSize : Nat := 5 * 1024 * mebibyte
  maxParts : Nat := 10000
  maxObjectSize : Nat := 5 * 1024 * 1024 * mebibyte
  deriving DecidableEq, Repr

/-- The number of parts that cover `size` bytes. Parts of no bytes cover nothing. -/
def partsNeeded (size chunksize : Nat) : Nat :=
  if chunksize = 0 then 0 else (size + chunksize - 1) / chunksize

/-- One more than the largest part number. -/
def partNumberBound : Nat := Word.bound32

namespace Limits

/-- Whether the limits describe a usable range. -/
def validate (limits : Limits) : Except Failure Unit :=
  if limits.minChunksize = 0 then .error (.config .noMinimum)
  else if limits.maxSingleSize < limits.minChunksize then
    .error (.config (.minimumAboveMaximum limits.minChunksize limits.maxSingleSize))
  else if limits.maxParts = 0 then .error (.config .noParts)
  else if partNumberBound ≤ limits.maxParts then
    .error (.config (.partNumbersTooLarge limits.maxParts))
  else .ok ()

/-- A wanted chunksize brought into the allowed range. -/
def clamp (limits : Limits) (wanted : Nat) : Nat :=
  if wanted < limits.minChunksize then limits.minChunksize
  else min wanted limits.maxSingleSize

/-- The chunksize for a transfer: the wanted one, clamped, and for a known total that would need
too many parts the smallest one that needs no more, as far as a single request may be. -/
def adjust (limits : Limits) (wanted : Nat) (total : Option Nat) : Nat :=
  let clamped := limits.clamp wanted
  match total with
  | none => clamped
  | some total =>
      if limits.maxParts < partsNeeded total clamped then
        min (partsNeeded total limits.maxParts) limits.maxSingleSize
      else clamped

/-- Whether the limits contradict each other so that no chunksize can be chosen: the smallest
part is above the largest, or parts are needed and none are allowed. -/
def contradict (limits : Limits) (wanted : Nat) (total : Option Nat) : Bool :=
  limits.maxSingleSize < limits.minChunksize ||
    (limits.maxParts = 0 && total.any fun total => 0 < partsNeeded total (limits.clamp wanted))

/-- The number of parts and the chunksize for a transfer of `size` bytes. -/
def split (limits : Limits) (wanted size : Nat) : Except Failure (Nat × Nat) :=
  let chunksize := limits.adjust wanted (some size)
  let parts := partsNeeded size chunksize
  if parts < partNumberBound then .ok (parts, chunksize)
  else .error (.config (.tooManyParts size chunksize parts))

end Limits
end BulkTransfer
