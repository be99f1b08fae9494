/-!
# Names in messages

How programs show names and values: between quotes that a shell would understand, without quotes
where none are needed, or with escapes. Texts are texts of units; units beyond the printable ones
are shown by their numbers.
-/

namespace IdlBuild.Tool

/-! ### Escapes -/

/-- The letter of a unit that has one as an escape. -/
def escapeLetter? (c : Char) : Option Char :=
  match c with
  | '\x07' => some 'a'
  | '\x08' => some 'b'
  | '\t' => some 't'
  | '\n' => some 'n'
  | '\x0b' => some 'v'
  | '\x0c' => some 'f'
  | '\r' => some 'r'
  | _ => none

/-- Whether a unit is shown as it is. -/
def isPrintable (c : Char) : Bool := 0x20 ≤ c.toNat && c.toNat < 0x7F

/-- A unit by its number in base eight. -/
def octalEscape (c : Char) : List Char :=
  let digit (n : Nat) : Char := Char.ofNat (0x30 + n % 8)
  [digit (c.toNat / 64), digit (c.toNat / 8), digit c.toNat]

/-- What follows the backslash of a unit that is not printable. -/
def escapeOf (c : Char) : List Char :=
  match escapeLetter? c with
  | some letter => [letter]
  | none => octalEscape c

/-! ### Quotes of a shell -/

/-- Whether a unit stands in a name only between quotes. -/
def needsQuotes (c : Char) : Bool :=
  !isPrintable c || " !\"$&()*;<=>[^`|'?\\".toList.contains c

/-- Whether a name stands only between quotes. -/
def isUnusual (cs : List Char) : Bool :=
  cs.isEmpty || cs.any needsQuotes || cs.head? == some '#' || cs.head? == some '~' ||
    cs == ['\x7b'] || cs == ['\x7d']

/-- Whether a name with a single quote in it can stand between double quotes. -/
def fitsDoubleQuotes (cs : List Char) : Bool :=
  cs.zipIdx.all fun (c, i) =>
    isPrintable c && !"!\"$&()*;<=>[^`|?\\\x7b\x7d".toList.contains c &&
      !(i != 0 && (c == '#' || c == '~'))

/-- What stands between single quotes; `open'` says whether an escaped stretch has begun. -/
def betweenQuotes : (escaped : Bool) → List Char → List Char
  | _, [] => []
  | escaped, c :: cs =>
    if !isPrintable c then
      (if escaped then [] else ['\'', '$', '\'']) ++ '\\' :: escapeOf c ++ betweenQuotes true cs
    else
      let reopened := if escaped then ['\'', '\''] else []
      if c == '\'' then ['\'', '\\', '\''] ++ '\'' :: betweenQuotes false cs
      else reopened ++ c :: betweenQuotes false cs

/-- A name between quotes. -/
def quotedName (name : String) : String :=
  let cs := name.toList
  if cs.contains '\'' && fitsDoubleQuotes cs then "\"" ++ name ++ "\""
  else String.ofList ('\'' :: betweenQuotes false cs ++ ['\''])

/-- A name, between quotes if it needs them. -/
def shownName (name : String) : String :=
  if isUnusual name.toList || name.toList.contains ':' then quotedName name else name

/-! ### Values -/

/-- What stands between the quotes of a value. -/
def valueBody : List Char → List Char
  | [] => []
  | c :: cs =>
    if c == '\'' || c == '\\' then '\\' :: c :: valueBody cs
    else if isPrintable c then c :: valueBody cs
    else '\\' :: escapeOf c ++ valueBody cs

/-- A value between quotes. -/
def quotedValue (value : String) : String := String.ofList ('\'' :: valueBody value.toList ++ ['\''])

end IdlBuild.Tool
