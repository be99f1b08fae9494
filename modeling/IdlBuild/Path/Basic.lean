import IdlBuild.Text.Fields
import IdlBuild.Text.Utf8

/-!
# Paths

A path is what the operating system takes for one: bytes of any kind, which need not be UTF-8. It is
kept exactly as it was written, doubled slashes and dots included, and read as components only where
its meaning is asked for: the root, the names between slashes, `..`, and a leading `.`; an empty
piece and a `.` elsewhere mean nothing. Two paths are the same path when their components are equal
(`Path.Same`). Where a path is shown, U+FFFD stands for what is not UTF-8 in it (`Path.text`).
-/

namespace IdlBuild

open Text (Bytes)

/-- The name of an entry in a directory. -/
abbrev FileName := Bytes

/-- Where bytes are asked for, a text stands for its UTF-8. -/
instance : Coe String Bytes := ⟨Text.encode⟩

/-- The byte between two names. -/
abbrev slash : UInt8 := 0x2F

/-- The byte that alone means here, and doubled the directory above. -/
abbrev dot : UInt8 := 0x2E

/-- A path as it was written. -/
structure Path where
  bytes : Bytes
deriving DecidableEq, Repr, Inhabited

/-- What a piece of a path stands for. -/
inductive Component where
  | root
  | here
  | up
  | name (bytes : FileName)
deriving DecidableEq, Repr

namespace Component

/-- How a component is written. -/
def bytes : Component → Bytes
  | root => [slash]
  | here => [dot]
  | up => [dot, dot]
  | name bytes => bytes

/-- The component of a piece between slashes, if it means anything. -/
def ofPiece? (piece : Bytes) : Option Component :=
  if piece = [] ∨ piece = [dot] then none
  else if piece = [dot, dot] then some up
  else some (name piece)

end Component

namespace Path

/-! ### Texts -/

/-- The path that a text is written for. -/
abbrev ofText (text : String) : Path := ⟨Text.encode text⟩

/-- The path as it is shown. -/
def text (p : Path) : String := Text.decodeLossy p.bytes

/-! ### Components -/

/-- Whether the path starts at the root. -/
def isAbsolute (p : Path) : Bool := p.bytes.head? == some slash

/-- The pieces between the slashes. -/
def pieces (p : Path) : List Bytes := Text.fields slash p.bytes

/-- What the path says, piece by piece. -/
def components (p : Path) : List Component :=
  let body := p.pieces.filterMap Component.ofPiece?
  if p.isAbsolute then .root :: body
  else if p.pieces.head? = some [dot] then .here :: body
  else body

/-- Equality of paths by what they say. -/
def Same (p q : Path) : Prop := p.components = q.components

instance (p q : Path) : Decidable (Same p q) := inferInstanceAs (Decidable (_ = _))

theorem Same.rfl {p : Path} : Same p p := Eq.refl _

/-- Whether the path ends with a slash, and so can only name a directory. -/
def endsWithSlash (p : Path) : Bool := p.bytes.getLast? == some slash

/-! ### Joining -/

/-- `p` followed by `q`; an absolute `q` stands alone. -/
def join (p q : Path) : Path :=
  if q.isAbsolute then q
  else if p.bytes.isEmpty || p.endsWithSlash then ⟨p.bytes ++ q.bytes⟩
  else ⟨p.bytes ++ slash :: q.bytes⟩

/-- The path of the names in order, each inside the one before. -/
def ofNames (names : List FileName) : Path :=
  names.foldl (fun p name => p.join ⟨name⟩) ⟨[]⟩

/-! ### Names, stems and parents -/

/-- The last component, if it is a name. -/
def fileName? (p : Path) : Option FileName :=
  match p.components.getLast? with
  | some (.name name) => some name
  | _ => none

/-- A name up to its last dot; a name without a dot, or with none but a leading one, is its own
stem. -/
def stemOf (name : FileName) : FileName :=
  if name = [dot, dot] then name
  else match Text.cutLast dot name with
    | none => name
    | some (before, _) => if before = [] then name else before

/-- The stem of the last component, if that is a name. -/
def fileStem? (p : Path) : Option FileName := p.fileName?.map stemOf

/-- The pieces up to the last one that means something; the piece at the head of a relative path
means something even if it is a dot. -/
def dropIdle (isHead : Bytes → Bool) : List Bytes → List Bytes
  | [] => []
  | piece :: rest =>
    match dropIdle (fun _ => false) rest with
    | [] => if isHead piece || (Component.ofPiece? piece).isSome then [piece] else []
    | kept => piece :: kept

/-- The path without its last component; the root and the empty path have no parent. -/
def parent? (p : Path) : Option Path :=
  if p.isAbsolute then
    match dropIdle (fun _ => false) p.pieces.tail with
    | [] => none
    | kept =>
      match dropIdle (fun _ => false) kept.dropLast with
      | [] => some ⟨[slash]⟩
      | front => some ⟨slash :: Text.intercalated slash front⟩
  else
    match dropIdle (· == [dot]) p.pieces with
    | [] => none
    | kept => some ⟨Text.intercalated slash (dropIdle (· == [dot]) kept.dropLast)⟩

/-! ### Absolute paths -/

/-- The components written one after another onto a start. -/
def extend (start : Path) (components : List Component) : Path :=
  components.foldl (fun p component => p.join ⟨component.bytes⟩) start

/-- The path from the root, seen from a working directory. Dots and doubled slashes go, `..` and a
final slash stay, and so do two slashes at the front when they are exactly two. -/
def absoluteFrom (directory p : Path) : Path :=
  let doubled := p.bytes.take 2 == [slash, slash] && p.bytes.take 3 != [slash, slash, slash]
  let start : Path :=
    if doubled then ⟨[slash, slash]⟩ else if p.isAbsolute then ⟨[]⟩ else directory
  let body := p.components.filter fun c => !(c == .here || (doubled && c == .root))
  let written := extend start body
  if p.endsWithSlash then written.join ⟨[]⟩ else written

end Path

end IdlBuild
