import BulkTransfer.Text.Hidden

/-!
# Quoted texts

A text between double quotes, in which quotes, backslashes, the common control characters and
all hidden characters are escaped, so that the quoted form shows what the text holds.
-/

namespace BulkTransfer.Text

/-- The escape for a character by its code point, in lower-case hexadecimal. -/
def escapeCode (code : Nat) : List Char :=
  ['\\', 'u', '\x7b'] ++ Nat.toDigits 16 code ++ ['\x7d']

/-- A character as it stands in a quoted text. -/
def quoteChar (c : Char) : List Char :=
  if c = '\x00' then ['\\', '0']
  else if c = '\t' then ['\\', 't']
  else if c = '\r' then ['\\', 'r']
  else if c = '\n' then ['\\', 'n']
  else if c = '\\' then ['\\', '\\']
  else if c = '"' then ['\\', '"']
  else if isHidden c then escapeCode c.toNat
  else [c]

/-- A text between double quotes. -/
def quoted (text : String) : String :=
  String.ofList ('"' :: text.toList.flatMap quoteChar ++ ['"'])

end BulkTransfer.Text
