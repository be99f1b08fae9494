import IdlBuild.Http.Percent
import IdlBuild.Text.Fields

/-!
# Forms

Named values as the body of a request of type `application/x-www-form-urlencoded`. Letters, digits
and the characters `*-._` stand for themselves, a space is a plus sign, every other byte is
percent-encoded; a name and its value are joined by an equals sign and the pairs by ampersands.
-/

namespace IdlBuild.Http.Form

open Text (Bytes)

/-- The content type of encoded forms. -/
def contentType : String := "application/x-www-form-urlencoded"

/-- A named value. -/
abbrev Field := String × String

/-! ### Writing -/

/-- A byte that stands for itself. -/
def isKept (b : UInt8) : Bool :=
  let n := b.toNat
  (0x30 ≤ n && n ≤ 0x39) || (0x41 ≤ n && n ≤ 0x5A) || (0x61 ≤ n && n ≤ 0x7A) ||
    n == 0x2A || n == 0x2D || n == 0x2E || n == 0x5F

/-- One byte of a name or a value. -/
def encodeByte (b : UInt8) : Bytes :=
  if isKept b then [b]
  else if b = 0x20 then [0x2B]
  else (percentEncoded b).map asciiByte

/-- A name or a value. -/
def encodeText (s : String) : Bytes := (Text.encode s).flatMap encodeByte

/-- One named value. -/
def encodeField (f : Field) : Bytes := encodeText f.1 ++ 0x3D :: encodeText f.2

/-- Named values in order. -/
def encode (fields : List Field) : Bytes := Text.intercalated 0x26 (fields.map encodeField)

/-! ### Reading -/

/-- The text of an encoded name or value. -/
def decodeText (bytes : Bytes) : String :=
  Text.decodeLossy (percentDecode (bytes.map fun b => if b = 0x2B then 0x20 else b))

/-- One named value. -/
def decodeField (bytes : Bytes) : Field :=
  match Text.cutFirst 0x3D bytes with
  | some (name, value) => (decodeText name, decodeText value)
  | none => (decodeText bytes, "")

/-- The named values of a body, in order. -/
def decode (body : Bytes) : List Field :=
  ((Text.fields 0x26 body).filter (· ≠ [])).map decodeField

end IdlBuild.Http.Form
