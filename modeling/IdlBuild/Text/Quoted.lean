import IdlBuild.Text.Printable
import IdlBuild.Text.Utf8

/-!
# Quoted texts

How messages show a text that may hold anything: between double quotes, with a backslash before a
quote or a backslash, letters for NUL, tab, carriage return and line feed, and the code point in
braces for a grapheme extender or an unprintable character. A list of texts is shown in square
brackets with a comma and a space between. Bytes that need not be well-formed UTF-8 are shown the
same way, with two upper-case hexadecimal digits for each byte of a broken piece.
-/

namespace IdlBuild.Text

/-! ### One character -/

/-- A code point in braces, in lower-case hexadecimal digits. -/
def codePointEscape (c : Char) : List Char :=
  '\\' :: 'u' :: '\x7b' :: (Nat.toDigits 16 c.toNat ++ ['\x7d'])

/-- One character between double quotes. -/
def quotedChar (c : Char) : List Char :=
  if c = '\x00' then ['\\', '0']
  else if c = '\t' then ['\\', 't']
  else if c = '\r' then ['\\', 'r']
  else if c = '\n' then ['\\', 'n']
  else if c = '\\' then ['\\', '\\']
  else if c = '"' then ['\\', '"']
  else if isGraphemeExtender c || !isPrintable c then codePointEscape c
  else [c]

/-! ### Texts and lists of texts -/

/-- A text between double quotes. -/
def quoted (s : String) : String :=
  String.ofList ('"' :: (s.toList.flatMap quotedChar ++ ['"']))

/-- The texts of a list, quoted, in square brackets. -/
def quotedList (texts : List String) : String :=
  "[" ++ ", ".intercalate (texts.map quoted) ++ "]"

/-! ### Bytes -/

/-- Two upper-case hexadecimal digits. -/
def byteEscape (b : UInt8) : List Char :=
  ['\\', 'x', hexDigit (b.toNat / 16), hexDigit (b.toNat % 16)]
where
  hexDigit (n : Nat) : Char := if n < 10 then Char.ofNat (0x30 + n) else Char.ofNat (0x37 + n)

/-- One part of a byte list between double quotes. -/
def quotedPart : Part → List Char
  | .char c => quotedChar c
  | .broken bytes => bytes.flatMap byteEscape

/-- Bytes between double quotes. -/
def quotedBytes (bytes : Bytes) : String :=
  String.ofList ('"' :: ((parts bytes).flatMap quotedPart ++ ['"']))

end IdlBuild.Text
