import IdlBuild.Text.Utf8

/-!
# Texts of units

A text that has one character for each byte, so that bytes of any kind can be cut, compared and put
together as texts are.
-/

namespace IdlBuild.Text.Units

/-- The text with one character for each byte. -/
def ofBytes (bytes : Bytes) : String := String.ofList (bytes.map fun b => Char.ofNat b.toNat)

/-- The bytes of a character: itself if it is a unit. -/
def bytesOfChar (c : Char) : Bytes :=
  if c.toNat < 0x100 then [UInt8.ofNat c.toNat] else String.utf8EncodeChar c

/-- The bytes that a text of units stands for. -/
def bytesOf (text : String) : Bytes := text.toList.flatMap bytesOfChar

/-- The text of units of an ordinary text. -/
def ofText (text : String) : String := ofBytes (encode text)

/-- The ordinary text that a text of units stands for. -/
def toText (text : String) : String := decodeLossy (bytesOf text)

end IdlBuild.Text.Units
