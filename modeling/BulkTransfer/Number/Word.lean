/-!
# Bounds of words

Sizes, offsets and part numbers are natural numbers here. What provider, file system and headers
hold them in has a width, and a number that does not fit is refused where it enters. The bounds
are written as numerals, one more than the largest number of the width.

The parts of a stream are counted while they are sent, so nothing bounds their number beforehand.
They are numbered in words of 32 bits, and what follows the largest one is a matter of the build.
-/

namespace BulkTransfer.Word

/-- One more than the largest number of 32 bits. -/
def bound32 : Nat := 0x100000000

/-- One more than the largest number of 63 bits. -/
def bound63 : Nat := 0x8000000000000000

/-- One more than the largest number of 64 bits. -/
def bound64 : Nat := 0x10000000000000000

/-- The largest number of 64 bits. -/
def largest64 : Nat := bound64 - 1

/-- What a build does about a word that is counted beyond the largest one. -/
inductive Overflow where
  | panics
  | wraps
  deriving DecidableEq, Repr

/-- The word after a word, if the build does not panic instead. -/
def Overflow.next? (overflow : Overflow) (word : UInt32) : Option UInt32 :=
  if overflow = .panics ∧ bound32 ≤ word.toNat + 1 then none else some (word + 1)

end BulkTransfer.Word
