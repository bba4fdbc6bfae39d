import BulkTransfer.Number.Word

/-!
# Decimal numerals

Natural numbers as runs of the digits `0` to `9`. Reading accepts leading zeros, and numbers of
at most 64 bits may also have one plus sign, as in range headers and on command lines. What is
written is read back (`read64?_digits`).
-/

namespace BulkTransfer.Decimal

/-- The decimal numeral of `n`, most significant digit first and without leading zeros. -/
def digits (n : Nat) : List Char :=
  Nat.toDigits 10 n

/-- The number that a non-empty run of digits denotes. -/
def read? (text : List Char) : Option Nat :=
  if text ≠ [] ∧ text.all Char.isDigit then some (Nat.ofDigitChars 10 text 0) else none

/-- A text without one plus sign at its start. -/
def dropPlus : List Char → List Char
  | '+' :: rest => rest
  | text => text

/-- A number below `bound`, with an optional plus sign. -/
def readBelow? (bound : Nat) (text : List Char) : Option Nat :=
  (read? (dropPlus text)).filter (· < bound)

/-- A number of at most 64 bits, with an optional plus sign. -/
def read64? (text : List Char) : Option Nat :=
  readBelow? Word.bound64 text

theorem read?_digits (n : Nat) : read? (digits n) = some n := by
  have hdigits : (digits n).all Char.isDigit = true :=
    List.all_eq_true.2 fun c hc => Nat.isDigit_of_mem_toDigits (by decide) (by decide) hc
  have hne : digits n ≠ [] := Nat.toDigits_ne_nil
  simp only [read?, hdigits, hne, ne_eq, not_false_eq_true, and_self, if_true]
  exact congrArg some Nat.ofDigitChars_ten_toDigits

theorem dropPlus_digits (n : Nat) : dropPlus (digits n) = digits n := by
  unfold dropPlus
  split
  · next rest h =>
      have hplus : ('+' : Char).isDigit = true :=
        Nat.isDigit_of_mem_toDigits (b := 10) (n := n) (by decide) (by decide)
          (by change '+' ∈ digits n; rw [h]; exact List.mem_cons_self)
      exact absurd hplus (by decide)
  · rfl

theorem read64?_digits {n : Nat} (h : n < Word.bound64) : read64? (digits n) = some n := by
  have hbelow : decide (n < Word.bound64) = true := decide_eq_true h
  simp only [read64?, readBelow?, dropPlus_digits, read?_digits, Option.filter, hbelow, if_true]

end BulkTransfer.Decimal
