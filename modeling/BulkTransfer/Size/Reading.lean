import BulkTransfer.Number.Word
import BulkTransfer.Size.Numeral
import BulkTransfer.Text.Blank
import BulkTransfer.Text.Cut
import BulkTransfer.Text.Uppercase

/-!
# Sizes given as texts

A size is a numeral followed by an optional unit: `K`, `M`, `G` and `T` stand for the powers of
1024, with or without a following `B` or `iB`, in any case. The size is the numeral's binary64
number times the unit, without its fraction, and at most `2 ^ 64 - 1`; what is not a number
counts as zero. Blanks around the text and between numeral and unit do not matter.
-/

namespace BulkTransfer.Size

/-- Why a text is not a size. -/
inductive ReadError where
  | empty
  | invalid (numeral : String)
  | negative (numeral : String)
  deriving DecidableEq, Repr

/-- The wording of a refusal. The numeral is quoted in upper case, without its unit. -/
def ReadError.message : ReadError → String
  | .empty => "Empty size string"
  | .invalid numeral => "Invalid number: " ++ numeral
  | .negative numeral => "Negative size: " ++ numeral

/-- The units in the order in which they are looked for, each with its power of two. -/
def units : List (List Char × Nat) :=
  [(['T', 'B'], 40), (['T'], 40), (['G', 'B'], 30), (['G'], 30), (['M', 'B'], 20), (['M'], 20),
   (['K', 'B'], 10), (['K'], 10), (['B'], 0)]

/-- An upper-case text with the spelling `IB` of a unit's end replaced by `B`. -/
def normalizeUnit (text : List Char) : List Char :=
  match Text.before? ['I', 'B'] text with
  | some rest => rest ++ ['B']
  | none => text

/-- An upper-case text cut into its numeral and the power of two of its unit. -/
def cutUnit (text : List Char) : List Char × Nat :=
  (units.findSome? fun unit => (Text.before? unit.1 text).map fun rest => (rest, unit.2)).getD
    (text, 0)

/-- The size that a numeral and a unit's power of two amount to. -/
def amount (numeral : List Char) (power : Nat) : Except ReadError Nat :=
  match Numeral.read? (Text.trim numeral) with
  | none => .error (.invalid (String.ofList numeral))
  | some .notANumber => .ok 0
  | some (.infinity negative) =>
      if negative then .error (.negative (String.ofList numeral)) else .ok Word.largest64
  | some (.decimal negative significand exponent) =>
      let magnitude := Numeral.nearest significand exponent
      if negative && !magnitude.isZero then .error (.negative (String.ofList numeral))
      else .ok (magnitude.floorShift power Word.largest64)

/-- The size that a text gives. -/
def read (text : String) : Except ReadError Nat :=
  let upper := Text.uppercase (Text.trim text.toList)
  if upper.isEmpty then .error .empty
  else
    let parts := cutUnit (normalizeUnit upper)
    amount parts.1 parts.2

end BulkTransfer.Size
