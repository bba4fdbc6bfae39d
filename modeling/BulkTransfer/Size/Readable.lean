import BulkTransfer.Number.Binary64
import BulkTransfer.Number.Decimal
import BulkTransfer.Number.Word

/-!
# Sizes for people

A size is shown in the largest power of 1024 that it reaches, without decimals where the
number of units is whole and with two otherwise. The size is first rounded to binary64, and a
fraction of at most one part in `2 ^ 52` does not count.
-/

namespace BulkTransfer.Size

/-- The names of the units, by powers of 1024. -/
def unitNames : List String :=
  ["B", "KiB", "MiB", "GiB", "TiB", "PiB", "EiB"]

/-- How a number of units is shown: places after the point where it is not whole, and the
binary digits of a fraction that is too small to show. -/
structure AmountFormat where
  places : Nat
  negligibleBits : Nat

/-- Amounts have two places, and a fraction of one part in `2 ^ 52` is none. -/
def amountFormat : AmountFormat := ⟨2, 52⟩

/-- The largest power of 1024 that `bytes` reaches, at most the one of the last unit. -/
def unitPower (bytes : Nat) : Nat :=
  min (bytes.log2 / 10) (unitNames.length - 1)

/-- A quotient with the given number of decimal places, a half rounded to the even digit. -/
def showFixed (places num den : Nat) : List Char :=
  let scale := Nat.pow 10 places
  let rounded := Binary64.roundHalfEven (num * scale) den
  let fraction := Decimal.digits (rounded % scale)
  Decimal.digits (rounded / scale) ++
    (if places = 0 then [] else
      '.' :: (List.replicate (places - fraction.length) '0' ++ fraction))

/-- A size in the largest unit that it reaches. -/
def readable (bytes : Nat) : String :=
  let rounded := (Binary64.nearest bytes 1).floorShift 0 Word.bound64
  let power := unitPower rounded
  let unit := Nat.pow 1024 power
  let places :=
    if rounded % unit * Nat.pow 2 amountFormat.negligibleBits ≤ unit then 0 else amountFormat.places
  String.ofList (showFixed places rounded unit) ++ " " ++ unitNames.getD power ""

end BulkTransfer.Size
