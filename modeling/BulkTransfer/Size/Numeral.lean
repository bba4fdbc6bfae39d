import BulkTransfer.Number.Binary64

/-!
# Numerals with fraction and exponent

The numerals in which a size may be given: an optional sign, digits with an optional point,
an optional power of ten, or one of the words for infinity and for no number at all. A numeral
denotes the binary64 number nearest to what it says.
-/

namespace BulkTransfer

/-- A numeral as it is written: a sign, and a decimal number or a word. -/
inductive Numeral where
  | decimal (negative : Bool) (significand : Nat) (exponent : Int)
  | infinity (negative : Bool)
  | notANumber
  deriving DecidableEq, Repr

namespace Numeral

/-- The digits at the start of a text, and the rest. -/
def spanDigits (text : List Char) : List Char × List Char :=
  (text.takeWhile Char.isDigit, text.dropWhile Char.isDigit)

/-- The number with the given digits; no digits are zero. -/
def ofDigits (digits : List Char) : Nat :=
  Nat.ofDigitChars 10 digits 0

/-- The size of a power of ten at which its further digits do not count any more. -/
def powerBound : Nat := 0x10000

/-- The power of ten with the given digits. -/
def powerOfDigits (digits : List Char) : Nat :=
  digits.foldl
    (fun power digit =>
      if power < powerBound then 10 * power + (digit.toNat - '0'.toNat) else power) 0

/-- A power of ten at the end of a numeral: nothing, or `e` with an optional sign and at least
one digit up to the end of the text. -/
def readExponent? : List Char → Option Int
  | [] => some 0
  | c :: rest =>
      if c = 'e' ∨ c = 'E' then
        let signed : Bool × List Char := match rest with
          | '+' :: digits => (false, digits)
          | '-' :: digits => (true, digits)
          | digits => (false, digits)
        let run := spanDigits signed.2
        if run.1.isEmpty ∨ ¬ run.2.isEmpty then none
        else
          let power : Int := powerOfDigits run.1
          some (if signed.1 then -power else power)
      else none

/-- An unsigned decimal number: digits, a point and digits, of which one side may be missing,
and a power of ten. -/
def readDecimal? (negative : Bool) (text : List Char) : Option Numeral :=
  let whole := spanDigits text
  let part : List Char × List Char := match whole.2 with
    | '.' :: rest => spanDigits rest
    | rest => ([], rest)
  if whole.1.isEmpty ∧ part.1.isEmpty then none
  else (readExponent? part.2).map fun exponent =>
    .decimal negative (ofDigits (whole.1 ++ part.1)) (exponent - part.1.length)

/-- The numeral that a text is, if it is one; letters may be in either case. -/
def read? (text : List Char) : Option Numeral :=
  let signed : Bool × List Char := match text with
    | '+' :: rest => (false, rest)
    | '-' :: rest => (true, rest)
    | rest => (false, rest)
  let word := String.ofList (signed.2.map Char.toLower)
  if word = "inf" ∨ word = "infinity" then some (.infinity signed.1)
  else if word = "nan" then some .notANumber
  else readDecimal? signed.1 signed.2

/-- The binary64 number nearest to `significand * 10 ^ exponent`. -/
def nearest (significand : Nat) (exponent : Int) : Binary64.Magnitude :=
  match exponent with
  | .ofNat e => Binary64.nearest (significand * Nat.pow 10 e) 1
  | .negSucc e => Binary64.nearest significand (Nat.pow 10 (e + 1))

end Numeral
end BulkTransfer
