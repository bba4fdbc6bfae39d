import BulkTransfer.Remote.CopySource
import Mathlib.Tactic.Lemma

/-!
# Copy sources can be read back

The text that names the source of a copy gives the object back. What stands before its first slash
is the bucket, and what follows is an escaped text (`CopySource.Escaped`), which can stand in a
header as it is, and from which the bytes of the key are read back, whatever characters the key has
(`CopySource.decode?_encodeBytes`). So the texts of two objects are never the same
(`CopySource.read_of_encode`).
-/

namespace BulkTransfer.CopySource

/-! ## Escaped texts -/

/-- Whether a character stands for itself in an escaped text. -/
def Unreserved (c : Char) : Prop :=
  ('A' ≤ c ∧ c ≤ 'Z') ∨ ('a' ≤ c ∧ c ≤ 'z') ∨ ('0' ≤ c ∧ c ≤ '9') ∨ c ∈ ['/', '-', '_', '.', '~']

/-- Whether a character is an upper-case hexadecimal digit. -/
def IsHexDigit (c : Char) : Prop :=
  ('0' ≤ c ∧ c ≤ '9') ∨ ('A' ≤ c ∧ c ≤ 'F')

instance (c : Char) : Decidable (IsHexDigit c) :=
  inferInstanceAs (Decidable (_ ∨ _))

/-- The texts that consist of characters that stand for themselves and of bytes written as `%` and
two digits. -/
inductive Escaped : List Char → Prop where
  | nil : Escaped []
  | plain {c : Char} {rest : List Char} (itself : Unreserved c) (more : Escaped rest) :
      Escaped (c :: rest)
  | byte {high low : Char} {rest : List Char} (first : IsHexDigit high) (second : IsHexDigit low)
      (more : Escaped rest) : Escaped ('%' :: high :: low :: rest)

/-- A character that stands for itself is one byte, and does not begin a byte written by digits. -/
lemma Unreserved.ascii {c : Char} (itself : Unreserved c) : c ≠ '%' ∧ c.toNat < 128 := by
  constructor
  · rintro rfl
    revert itself
    unfold Unreserved
    decide
  · rcases itself with ⟨-, most⟩ | ⟨-, most⟩ | ⟨-, most⟩ | listed
    · exact Nat.lt_of_le_of_lt most (by decide)
    · exact Nat.lt_of_le_of_lt most (by decide)
    · exact Nat.lt_of_le_of_lt most (by decide)
    · simp only [List.mem_cons, List.not_mem_nil, or_false] at listed
      obtain rfl | rfl | rfl | rfl | rfl := listed <;> decide

lemma decode?_plain {c : Char} (itself : Unreserved c) (rest : List Char) :
    decode? (c :: rest) = (decode? rest).map (UInt8.ofNat c.toNat :: ·) := by
  obtain ⟨noByte, small⟩ := itself.ascii
  rw [decode?]
  · exact if_neg (by simp [noByte, small])
  · exact fun _ _ _ same => absurd same noByte

/-! ## A byte as it is written -/

/-- The bytes that stand for themselves are those of the characters that do. -/
lemma unreserved_of_isPlain {byte : UInt8} (plain : isPlain byte = true) :
    Unreserved (Char.ofNat byte.toNat) ∧ (Char.ofNat byte.toNat).toNat = byte.toNat := by
  obtain ⟨small, known⟩ := Bool.and_eq_true_iff.1 plain
  have small : byte.toNat < 128 := UInt8.lt_iff_toNat_lt.1 (of_decide_eq_true small)
  have valid : byte.toNat.isValidChar := .inl (by omega)
  constructor
  · unfold Char.isAlphanum Char.isAlpha Char.isUpper Char.isLower Char.isDigit at known
    simp only [Bool.or_eq_true, Bool.and_eq_true, decide_eq_true_eq] at known
    rcases known with ((upper | lower) | digit) | listed
    · exact .inl upper
    · exact .inr (.inl lower)
    · exact .inr (.inr (.inl digit))
    · exact .inr (.inr (.inr listed))
  · unfold Char.ofNat Char.ofNatAux
    rw [dif_pos valid]
    exact UInt32.toNat_ofNatLT ..

/-- The digits of a number below sixteen can be read. -/
lemma hexValue?_hexDigit {n : Nat} (digit : n < 16) :
    IsHexDigit (hexDigit n) ∧ hexValue? (hexDigit n) = some n := by
  have all : ∀ n : Fin 16, IsHexDigit (hexDigit n) ∧ hexValue? (hexDigit n) = some n.val := by
    decide
  exact all ⟨n, digit⟩

/-- What is written for a byte is read back as the byte, whatever follows. -/
lemma decode?_encodeByte (byte : UInt8) (rest : List Char) :
    decode? (encodeByte byte ++ rest) = (decode? rest).map (byte :: ·) := by
  unfold encodeByte
  split
  · next plain =>
      obtain ⟨itself, value⟩ := unreserved_of_isPlain plain
      rw [List.singleton_append, decode?_plain itself, value, UInt8.ofNat_toNat]
  · have high := (hexValue?_hexDigit (n := byte.toNat / 16) (by have := byte.toNat_lt; omega)).2
    have low := (hexValue?_hexDigit (n := byte.toNat % 16) (by omega)).2
    have value : UInt8.ofNat (16 * (byte.toNat / 16) + byte.toNat % 16) = byte := by
      rw [Nat.div_add_mod, UInt8.ofNat_toNat]
    simp only [List.cons_append, List.nil_append, decode?, high, low, value, Option.bind_eq_bind,
      Option.bind_some]
    cases decode? rest <;> rfl

lemma escaped_encodeByte (byte : UInt8) {rest : List Char} (more : Escaped rest) :
    Escaped (encodeByte byte ++ rest) := by
  unfold encodeByte
  split
  · next plain => exact .plain (unreserved_of_isPlain plain).1 more
  · exact .byte (hexValue?_hexDigit (by have := byte.toNat_lt; omega)).1
      (hexValue?_hexDigit (by omega)).1 more

/-! ## Byte strings and objects -/

theorem decode?_encodeBytes (bytes : Bytes) : decode? (encodeBytes bytes) = some bytes := by
  induction bytes with
  | nil => rfl
  | cons byte bytes ih =>
      rw [encodeBytes, List.flatMap_cons, decode?_encodeByte]
      exact congrArg (Option.map (byte :: ·)) ih

lemma escaped_encodeBytes (bytes : Bytes) : Escaped (encodeBytes bytes) := by
  induction bytes with
  | nil => exact .nil
  | cons byte bytes ih => exact escaped_encodeByte byte ih

/-- The first slash of the text is the one after the bucket. -/
lemma cut?_encode {object : ObjectName} (plain : '/' ∉ object.bucket.toList) :
    Text.cut? '/' (encode object).toList =
      some (object.bucket.toList, encodeBytes (Bytes.ofText object.key)) := by
  have text : (encode object).toList =
      object.bucket.toList ++ '/' :: encodeBytes (Bytes.ofText object.key) := by
    simp [encode]
  rw [text, Text.cut?_append _ plain]

/-- The source of a copy can be read back from its text, for every bucket without a slash and every
key: cut at its first slash, the text gives the bucket as it is, and an escaped text that stands for
just the bytes of the key. So no other object has the same text. -/
theorem read_of_encode (object : ObjectName) (plain : '/' ∉ object.bucket.toList) :
    ∃ text, Text.cut? '/' (encode object).toList = some (object.bucket.toList, text) ∧
      Escaped text ∧ decode? text = some (Bytes.ofText object.key) ∧
        ∀ other : ObjectName, '/' ∉ other.bucket.toList → encode other = encode object →
          other = object := by
  refine ⟨_, cut?_encode plain, escaped_encodeBytes _, decode?_encodeBytes _, ?_⟩
  intro other clean same
  have cuts := cut?_encode clean
  rw [same, cut?_encode plain] at cuts
  obtain ⟨bucket, texts⟩ := Prod.mk.inj (Option.some.inj cuts)
  have keys := congrArg decode? texts
  rw [decode?_encodeBytes, decode?_encodeBytes] at keys
  obtain ⟨name, key⟩ := other
  obtain rfl : object.bucket = name := String.toList_inj.1 bucket
  obtain rfl : object.key = key := Bytes.ofText_injective (Option.some.inj keys)
  rfl

/-- A key with a slash, a space, a plus sign, a percent sign and a letter of two bytes. -/
theorem read_of_percentKey :
    '/' ∉ "bucket".toList ∧
      encode ⟨"bucket", "a/ +%é"⟩ = "bucket/a/%20%2B%25%C3%A9" ∧
        ∃ text, Text.cut? '/' (encode ⟨"bucket", "a/ +%é"⟩).toList = some ("bucket".toList, text) ∧
          Escaped text ∧ decode? text = some (Bytes.ofText "a/ +%é") ∧
            ∀ other : ObjectName, '/' ∉ other.bucket.toList →
              encode other = encode ⟨"bucket", "a/ +%é"⟩ → other = ⟨"bucket", "a/ +%é"⟩ :=
  ⟨by decide, by decide, read_of_encode ⟨"bucket", "a/ +%é"⟩ (by decide)⟩

end BulkTransfer.CopySource
