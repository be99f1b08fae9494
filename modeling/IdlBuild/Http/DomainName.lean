import IdlBuild.Http.DomainData
import IdlBuild.Http.Label
import IdlBuild.Text.Canonical
import IdlBuild.Text.Direction

/-!
# Domain names

A domain name in any script has one ASCII form. Its characters are mapped, compatibility forms and
capital letters to what they stand for; the result is composed and cut into labels at the dots; a
label in ASCII form is read; each label must be one that can be registered in principle; and each is
written in ASCII. A name with letters written from right to left has to keep the rules for mixed
directions in all of its labels.
-/

namespace IdlBuild.Http.DomainName

open Text (Direction direction combiningClass)

/-! ### Characters -/

/-- What becomes of a character, if a name may hold it. -/
def mapped? (n : Nat) : Option (List Nat) :=
  if n < 0x80 then some [if 0x41 ≤ n ∧ n ≤ 0x5A then n + 0x20 else n]
  else if keptTable.contains n then some [n]
  else if leftOutTable.contains n then some []
  else replacedTable.image? n

/-- Whether a label may hold a character as it is. -/
def isKept (n : Nat) : Bool := n < 0x80 || keptTable.contains n

/-- An ASCII character that no domain name may hold. -/
def isForbidden (c : Char) : Bool :=
  c.toNat ≤ 0x20 || c.toNat == 0x7F || "#%/:<>?@[\\]^|".toList.contains c

/-! ### Joiners -/

/-- The class of marks that suppress a vowel. -/
def viramaClass : Nat := 9

/-- Whether an invisible joiner may stand between two parts of a label; the part before is
reversed. -/
def joinerAllowed (joiner : Nat) (before after : List Nat) : Bool :=
  before.head?.any (combiningClass · == viramaClass) ||
    (joiner == 0x200C &&
      (before.dropWhile Text.isTransparent).head?.any Text.joinsNext &&
      (after.dropWhile Text.isTransparent).head?.any Text.joinsPrevious)

/-- Whether every invisible joiner of a label may stand where it does; the part before is
reversed. -/
def joinersAllowed : (before : List Nat) → (label : List Nat) → Bool
  | _, [] => true
  | before, n :: after =>
    ((n != 0x200C && n != 0x200D) || joinerAllowed n before after) &&
      joinersAllowed (n :: before) after

/-! ### Directions -/

/-- A character that makes a name one of mixed directions. -/
def isRightward (d : Direction) : Bool :=
  d == .rightToLeft || d == .arabicLetter || d == .arabicNumber

/-- A character that may stand in a label of either direction. -/
def isUndirected (d : Direction) : Bool :=
  [.europeanNumber, .europeanSeparator, .commonSeparator, .europeanTerminator, .neutral, .boundary,
   .nonspacing].contains d

/-- The direction of the last character that is not a nonspacing mark. -/
def lastDirection (directions : List Direction) : Option Direction :=
  (directions.reverse.dropWhile (· == .nonspacing)).head?

/-- Whether a label keeps the rules for names of mixed directions. -/
def keepsDirections (label : List Nat) : Bool :=
  let directions := label.map direction
  match directions.head? with
  | none => true
  | some .leftToRight =>
    directions.all (fun d => d == .leftToRight || isUndirected d) &&
      (lastDirection directions).any fun d => d == .leftToRight || d == .europeanNumber
  | some first =>
    (first == .rightToLeft || first == .arabicLetter) &&
      directions.all (fun d => isRightward d || isUndirected d) &&
      (lastDirection directions).any (fun d => isRightward d || d == .europeanNumber) &&
      !(directions.contains .europeanNumber && directions.contains .arabicNumber)

/-! ### Labels -/

/-- Whether a text begins with the prefix of labels in ASCII form. -/
def isMarked (label : List Nat) : Bool := (Label.mark.map Char.toNat).isPrefixOf label

/-- Whether a label may be part of a name. -/
def isLabel (label : List Nat) : Bool :=
  !isMarked label && !label.head?.any markTable.contains && label.all isKept &&
    joinersAllowed [] label

/-- The label that a part of a name stands for. -/
def label? (part : List Nat) : Option (List Nat) :=
  if isMarked part then do
    let label ← Label.read? (part.drop Label.mark.length)
    if label.all (· < 0x80) ∨ Text.composed label ≠ label ∨ !isLabel label then none else label
  else if isLabel part then part
  else none

/-! ### Names -/

/-- The code point of a dot. -/
def dot : Nat := 0x2E

/-- The labels of a name, if it is one. -/
def labels? (name : List Nat) : Option (List (List Nat)) := do
  let mapped ← name.mapM mapped?
  let labels ← (Text.fields dot (Text.composed mapped.flatten)).mapM label?
  let mixed := labels.any fun label => label.any fun n => 0x80 ≤ n && isRightward (direction n)
  if mixed ∧ !labels.all keepsDirections then none else labels

/-- The ASCII form of a name. -/
def ascii? (name : List Char) : Option (List Char) := do
  let labels ← labels? (name.map Char.toNat)
  let written := Text.intercalated '.' (labels.map Label.written)
  if written.any isForbidden then none else written

end IdlBuild.Http.DomainName
