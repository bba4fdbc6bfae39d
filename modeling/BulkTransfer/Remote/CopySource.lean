import BulkTransfer.Bytes
import BulkTransfer.Location

/-!
# Copy sources

The source of a server-side copy is named in a header by its bucket and the percent-encoded
form of its key. Letters, digits, `-`, `_`, `.`, `~` and the slash stand for themselves; every
other byte of the key's UTF-8 form is written as `%` and two upper-case hexadecimal digits.
-/

namespace BulkTransfer.CopySource

/-- Whether a byte stands for itself. -/
def isPlain (byte : UInt8) : Bool :=
  let c := Char.ofNat byte.toNat
  byte < 128 && (c.isAlphanum || c ∈ ['/', '-', '_', '.', '~'])

/-- The upper-case hexadecimal digit of a number below sixteen. -/
def hexDigit (n : Nat) : Char :=
  Char.ofNat (if n < 10 then '0'.toNat + n else 'A'.toNat + (n - 10))

/-- The value of an upper-case hexadecimal digit. -/
def hexValue? (c : Char) : Option Nat :=
  if '0' ≤ c ∧ c ≤ '9' then some (c.toNat - '0'.toNat)
  else if 'A' ≤ c ∧ c ≤ 'F' then some (c.toNat - 'A'.toNat + 10)
  else none

/-- A byte as it is written. -/
def encodeByte (byte : UInt8) : List Char :=
  if isPlain byte then [Char.ofNat byte.toNat]
  else ['%', hexDigit (byte.toNat / 16), hexDigit (byte.toNat % 16)]

/-- A byte string as it is written. -/
def encodeBytes (bytes : Bytes) : List Char :=
  bytes.flatMap encodeByte

/-- The bytes that an encoded text stands for, if it is one. -/
def decode? : List Char → Option Bytes
  | [] => some []
  | '%' :: high :: low :: rest => do
      let high ← hexValue? high
      let low ← hexValue? low
      let bytes ← decode? rest
      some (UInt8.ofNat (16 * high + low) :: bytes)
  | c :: rest =>
      if c = '%' ∨ 128 ≤ c.toNat then none
      else (decode? rest).map (UInt8.ofNat c.toNat :: ·)

/-- The source of a copy of an object. -/
def encode (object : ObjectName) : String :=
  object.bucket ++ "/" ++ String.ofList (encodeBytes (Bytes.ofText object.key))

end BulkTransfer.CopySource
