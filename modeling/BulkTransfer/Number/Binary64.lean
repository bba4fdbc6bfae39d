/-!
# Nearest binary64 numbers

A non-negative rational rounded to the nearest number of the IEEE format binary64, ties to
the even neighbour, in exact arithmetic. The result is a mantissa below or equal to `2 ^ 53`
and a power of two, or infinity.
-/

namespace BulkTransfer.Binary64

/-- A non-negative binary64 number: `mantissa * 2 ^ exponent`, or infinity. -/
inductive Magnitude where
  | finite (mantissa : Nat) (exponent : Int)
  | infinite
  deriving DecidableEq, Repr

/-- One more than the largest mantissa, which has 53 bits. -/
def mantissaBound : Nat := 0x20000000000000

/-- The quotient of `num` and `den` rounded to the nearest integer, a half to the even one. -/
def roundHalfEven (num den : Nat) : Nat :=
  let quotient := num / den
  let twice := 2 * (num % den)
  if twice < den then quotient
  else if den < twice then quotient + 1
  else if quotient % 2 = 0 then quotient else quotient + 1

/-- `num * 2 ^ (-exponent) / den` as a pair of natural numbers. -/
def scaled (num den : Nat) (exponent : Int) : Nat × Nat :=
  match exponent with
  | .ofNat e => (num, den * Nat.pow 2 e)
  | .negSucc e => (num * Nat.pow 2 (e + 1), den)

/-- The exponent of the last place of the binary64 numbers around `num / den`: the mantissa
then has 53 bits, or fewer where the exponent cannot go below `-1074`. -/
def lastPlace (num den : Nat) : Int :=
  let guess : Int := (num.log2 : Int) - (den.log2 : Int) - 52
  let parts := scaled num den guess
  let fitted := if 2 * parts.1 < mantissaBound * parts.2 then guess - 1 else guess
  max fitted (-1074)

/-- The binary64 number nearest to `num / den`, where `den` is positive. -/
def nearest (num den : Nat) : Magnitude :=
  if num = 0 then .finite 0 0
  else
    let exponent := lastPlace num den
    let parts := scaled num den exponent
    let mantissa := roundHalfEven parts.1 parts.2
    if 971 < exponent ∨ (exponent = 971 ∧ mantissaBound ≤ mantissa) then .infinite
    else .finite mantissa exponent

/-- Whether the number is zero. -/
def Magnitude.isZero : Magnitude → Bool
  | .finite 0 _ => true
  | _ => false

/-- The integer part of the number times `2 ^ shift`, at most `limit`; infinity is above every
limit. -/
def Magnitude.floorShift (shift limit : Nat) : Magnitude → Nat
  | .infinite => limit
  | .finite mantissa exponent =>
      let parts := scaled (mantissa * Nat.pow 2 shift) 1 (-exponent)
      min (parts.1 / parts.2) limit

end BulkTransfer.Binary64
