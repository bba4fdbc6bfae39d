import BulkTransfer.Error

/-!
# Documents with settings

Settings are kept in JSON documents. A document is read from its first character to its last,
field by field, and the first fault ends the reading: a size that cannot be read is reported as
such, and everything else that is not as expected makes the document malformed. Fields may also
be given by position in an array. Unknown fields are skipped, however deeply they are nested.
-/

namespace BulkTransfer.Document

/-- What is left of a document after a part of it was read, or the first fault. -/
abbrev Reading (α : Type) := Except ConfigFault (α × List Char)

/-- The blanks between the parts of a document. -/
def isGap (c : Char) : Bool :=
  c = ' ' || c = '\n' || c = '\t' || c = '\r'

/-- A document without the blanks at its start. -/
def skipGap (text : List Char) : List Char :=
  text.dropWhile isGap

/-- The value of a hexadecimal digit in either case. -/
def hexValue? (c : Char) : Option Nat :=
  if '0' ≤ c ∧ c ≤ '9' then some (c.toNat - '0'.toNat)
  else if 'a' ≤ c ∧ c ≤ 'f' then some (c.toNat - 'a'.toNat + 10)
  else if 'A' ≤ c ∧ c ≤ 'F' then some (c.toNat - 'A'.toNat + 10)
  else none

/-- The number that four hexadecimal digits write. -/
def hexCode? (a b c d : Char) : Option Nat := do
  return (((← hexValue? a) * 16 + (← hexValue? b)) * 16 + (← hexValue? c)) * 16 + (← hexValue? d)

/-- The character that a one-letter escape stands for. -/
def shortEscape? : Char → Option Char
  | '"' => some '"'
  | '\\' => some '\\'
  | '/' => some '/'
  | 'b' => some '\x08'
  | 'f' => some '\x0c'
  | 'n' => some '\n'
  | 'r' => some '\r'
  | 't' => some '\t'
  | _ => none

/-- Whether a code is the first half of a pair of surrogates. -/
def isHighSurrogate (code : Nat) : Bool :=
  0xD800 ≤ code && code ≤ 0xDBFF

/-- Whether a code is the second half of a pair of surrogates. -/
def isLowSurrogate (code : Nat) : Bool :=
  0xDC00 ≤ code && code ≤ 0xDFFF

/-- The character that a pair of surrogates stands for. -/
def pairedChar (high low : Nat) : Char :=
  Char.ofNat (0x10000 + (high - 0xD800) * 0x400 + (low - 0xDC00))

/-- The characters of a string after its opening quote, up to the closing one; `read` holds those
already read, latest first. A pair of surrogates takes two escapes, and a surrogate alone is no
character. -/
def readCharacters (read : List Char) : List Char → Reading (List Char)
  | '"' :: rest => .ok (read.reverse, rest)
  | '\\' :: 'u' :: a :: b :: c :: d :: rest =>
      match hexCode? a b c d with
      | none => .error .malformed
      | some code =>
          if isLowSurrogate code then .error .malformed
          else if isHighSurrogate code then
            match rest with
            | '\\' :: 'u' :: a :: b :: c :: d :: rest =>
                match (hexCode? a b c d).filter isLowSurrogate with
                | some low => readCharacters (pairedChar code low :: read) rest
                | none => .error .malformed
            | _ => .error .malformed
          else readCharacters (Char.ofNat code :: read) rest
  | '\\' :: escape :: rest =>
      match shortEscape? escape with
      | some char => readCharacters (char :: read) rest
      | none => .error .malformed
  | c :: rest =>
      if c = '\\' ∨ c.toNat < 0x20 then .error .malformed else readCharacters (c :: read) rest
  | [] => .error .malformed

/-- A string. -/
def readString (text : List Char) : Reading String :=
  match skipGap text with
  | '"' :: rest =>
      match readCharacters [] rest with
      | .ok (chars, rest) => .ok (String.ofList chars, rest)
      | .error fault => .error fault
  | _ => .error .malformed

/-- What follows a skipped string, of which only the form is looked at. -/
def skipCharacters : List Char → Except ConfigFault (List Char)
  | '"' :: rest => .ok rest
  | '\\' :: 'u' :: a :: b :: c :: d :: rest =>
      if (hexCode? a b c d).isSome then skipCharacters rest else .error .malformed
  | '\\' :: escape :: rest =>
      if (shortEscape? escape).isSome then skipCharacters rest else .error .malformed
  | c :: rest =>
      if c = '\\' ∨ c.toNat < 0x20 then .error .malformed else skipCharacters rest
  | [] => .error .malformed

/-- The digits at the start of a text, of which there has to be one. -/
def skipDigits (text : List Char) : Except ConfigFault (List Char) :=
  match text with
  | c :: rest => if c.isDigit then .ok (rest.dropWhile Char.isDigit) else .error .malformed
  | [] => .error .malformed

/-- What follows the whole part of a number, which has no leading zeros. -/
def skipWhole (text : List Char) : Except ConfigFault (List Char) :=
  match text with
  | '0' :: c :: rest => if c.isDigit then .error .malformed else .ok (c :: rest)
  | '0' :: [] => .ok []
  | text => skipDigits text

/-- What follows the power of ten of a number. -/
def skipPower (text : List Char) : Except ConfigFault (List Char) :=
  match text with
  | c :: rest =>
      if c = 'e' ∨ c = 'E' then
        match rest with
        | '+' :: rest => skipDigits rest
        | '-' :: rest => skipDigits rest
        | rest => skipDigits rest
      else .ok (c :: rest)
  | [] => .ok []

/-- What follows a number. -/
def skipNumber (text : List Char) : Except ConfigFault (List Char) := do
  let unsigned := match text with
    | '-' :: rest => rest
    | text => text
  match ← skipWhole unsigned with
  | '.' :: rest => skipPower (← skipDigits rest)
  | rest => skipPower rest

/-- What follows a word that has to stand at the start of a text. -/
def skipWord (word : String) (text : List Char) : Except ConfigFault (List Char) :=
  if word.toList.isPrefixOf text then .ok (text.drop word.length) else .error .malformed

/-- The brackets that a skipped value may be inside of. -/
inductive Bracket where
  | array
  | object
  deriving DecidableEq, Repr

/-- What has to come next in a skipped value. -/
inductive Expected where
  | value
  | valueOrEnd
  | key
  | keyOrEnd
  | afterValue
  deriving DecidableEq, Repr

/-- One step in skipping a value: one character of structure, one string, number or word. -/
def skipStep (open_ : List Bracket) (expected : Expected) (text : List Char) :
    Except ConfigFault (List Bracket × Expected × List Char) :=
  let plain (rest : Except ConfigFault (List Char)) :=
    rest.map fun rest => (open_, Expected.afterValue, rest)
  let startValue (c : Char) (rest : List Char) :=
    if c = '[' then .ok (.array :: open_, .valueOrEnd, rest)
    else if c = '\x7b' then .ok (.object :: open_, .keyOrEnd, rest)
    else if c = '"' then plain (skipCharacters rest)
    else if c = '-' ∨ c.isDigit then plain (skipNumber (c :: rest))
    else if c = 't' then plain (skipWord "true" (c :: rest))
    else if c = 'f' then plain (skipWord "false" (c :: rest))
    else if c = 'n' then plain (skipWord "null" (c :: rest))
    else .error .malformed
  let startKey (rest : List Char) :=
    match skipCharacters rest with
    | .error fault => .error fault
    | .ok rest =>
        match skipGap rest with
        | ':' :: rest => .ok (open_, .value, rest)
        | _ => .error .malformed
  match expected, open_, skipGap text with
  | .value, _, c :: rest => startValue c rest
  | .valueOrEnd, .array :: outer, ']' :: rest => .ok (outer, .afterValue, rest)
  | .valueOrEnd, _, c :: rest => startValue c rest
  | .key, _, '"' :: rest => startKey rest
  | .keyOrEnd, .object :: outer, '\x7d' :: rest => .ok (outer, .afterValue, rest)
  | .keyOrEnd, _, '"' :: rest => startKey rest
  | .afterValue, .array :: _, ',' :: rest => .ok (open_, .value, rest)
  | .afterValue, .array :: outer, ']' :: rest => .ok (outer, .afterValue, rest)
  | .afterValue, .object :: _, ',' :: rest => .ok (open_, .key, rest)
  | .afterValue, .object :: outer, '\x7d' :: rest => .ok (outer, .afterValue, rest)
  | _, _, _ => .error .malformed

/-- What follows a value that is skipped in at most one step for each character of `steps`. -/
def skipFrom : List Char → List Bracket → Expected → List Char → Except ConfigFault (List Char)
  | [], _, _, _ => .error .malformed
  | _ :: steps, open_, expected, text =>
      match skipStep open_ expected text with
      | .error fault => .error fault
      | .ok ([], .afterValue, rest) => .ok rest
      | .ok (open_, expected, rest) => skipFrom steps open_ expected rest

/-- What follows a value that nobody asked for. Every step in skipping it takes a character. -/
def skipValue (text : List Char) : Except ConfigFault (List Char) :=
  skipFrom text [] .value text

/-- A natural number of at most 64 bits, without fraction and power of ten. -/
def readCount (text : List Char) : Reading Nat :=
  let text := skipGap text
  match text with
  | c :: _ =>
      if !c.isDigit then .error .malformed
      else
        let digits := text.takeWhile Char.isDigit
        match skipNumber text with
        | .error fault => .error fault
        | .ok rest =>
            let value := Nat.ofDigitChars 10 digits 0
            if rest.length + digits.length = text.length ∧ value < Word.bound64 then
              .ok (value, rest)
            else .error .malformed
  | [] => .error .malformed

/-- A size: a number of bytes, or a text that gives it. -/
def readSize (text : List Char) : Reading Nat :=
  match skipGap text with
  | '"' :: rest =>
      match readString ('"' :: rest) with
      | .error fault => .error fault
      | .ok (size, rest) =>
          match Size.read size with
          | .ok bytes => .ok (bytes, rest)
          | .error fault => .error (.badSize fault)
  | text => readCount text

/-- A truth value. -/
def readBool (text : List Char) : Reading Bool :=
  match skipGap text with
  | 't' :: rest => (skipWord "true" ('t' :: rest)).map (true, ·)
  | 'f' :: rest => (skipWord "false" ('f' :: rest)).map (false, ·)
  | _ => .error .malformed

/-- A value that may be `null`. -/
def readOptional {α : Type} (read : List Char → Reading α) (text : List Char) :
    Reading (Option α) :=
  match skipGap text with
  | 'n' :: rest => (skipWord "null" ('n' :: rest)).map (none, ·)
  | text => (read text).map fun result => (some result.1, result.2)

/-- A field of a record: its name, and how its value is read into the record. -/
structure Field (σ : Type) where
  name : String
  read : σ → List Char → Reading σ

/-- A field whose value is read and then put into the record. -/
def Field.of {σ α : Type} (name : String) (read : List Char → Reading α) (put : σ → α → σ) :
    Field σ :=
  ⟨name, fun record text => (read text).map fun result => (put record result.1, result.2)⟩

variable {σ : Type}

/-- One member of an object: a known field that has not been `seen`, or one to be skipped. -/
def readMember (fields : List (Field σ)) (seen : List String) (record : σ) (text : List Char) :
    Reading (σ × List String) :=
  match readString text with
  | .error fault => .error fault
  | .ok (key, rest) =>
      match fields.find? (·.name = key) with
      | none =>
          match skipGap rest with
          | ':' :: rest => (skipValue rest).map fun rest => ((record, seen), rest)
          | _ => .error .malformed
      | some field =>
          if key ∈ seen then .error .malformed
          else match skipGap rest with
            | ':' :: rest =>
                (field.read record rest).map fun result => ((result.1, key :: seen), result.2)
            | _ => .error .malformed

/-- The members of an object after its opening brace or a comma. -/
def readMembers (fields : List (Field σ)) :
    Nat → List String → σ → List Char → Reading σ
  | 0, _, _, _ => .error .malformed
  | fuel + 1, seen, record, text =>
      match readMember fields seen record text with
      | .error fault => .error fault
      | .ok ((record, seen), rest) =>
          match skipGap rest with
          | ',' :: rest => readMembers fields fuel seen record rest
          | '\x7d' :: rest => .ok (record, rest)
          | _ => .error .malformed

/-- The elements of an array, one for each field as far as there are elements. -/
def readElements : List (Field σ) → σ → List Char → Reading σ
  | [], _, _ => .error .malformed
  | field :: fields, record, text =>
      match field.read record text with
      | .error fault => .error fault
      | .ok (record, rest) =>
          match skipGap rest with
          | ',' :: rest => readElements fields record rest
          | ']' :: rest => .ok (record, rest)
          | _ => .error .malformed

/-- A record from an object or an array; missing fields stay as they are. -/
def readRecord (fields : List (Field σ)) (record : σ) (text : List Char) : Reading σ :=
  match skipGap text with
  | '\x7b' :: rest =>
      match skipGap rest with
      | '\x7d' :: rest => .ok (record, rest)
      | rest => readMembers fields (rest.length + 1) [] record rest
  | '[' :: rest =>
      match skipGap rest with
      | ']' :: rest => .ok (record, rest)
      | rest => readElements fields record rest
  | _ => .error .malformed

/-- The record that a whole document holds. -/
def read (fields : List (Field σ)) (record : σ) (text : String) : Except ConfigFault σ :=
  match readRecord fields record text.toList with
  | .error fault => .error fault
  | .ok (record, rest) => if (skipGap rest).isEmpty then .ok record else .error .malformed

end BulkTransfer.Document
