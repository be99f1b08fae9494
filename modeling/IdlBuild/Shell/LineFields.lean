import IdlBuild.Shell.Session

/-!
# Lines into variables

How a line that is read is cut into the values of variables. The last variable gets what is left of
the line; if that is a single field, it gets the field without what ends it.
-/

namespace IdlBuild.Shell.LineFields

/-- A character of a line, with whether it was made an ordinary one by a backslash. -/
abbrev Marked := Char × Bool

/-- Whether a separator only counts between other characters. -/
def isBlank (c : Char) : Bool := c == ' ' || c == '\t' || c == '\n'

/-- Whether a character ends a field. -/
def ends (separators : List Char) (m : Marked) : Bool := !m.2 && separators.contains m.1

/-- Whether a character is a blank that ends a field. -/
def endsAsBlank (separators : List Char) (m : Marked) : Bool := ends separators m && isBlank m.1

/-- What comes behind the end of a field: blanks, at most one other separator, and blanks. -/
def afterEnd (separators : List Char) (cs : List Marked) : List Marked :=
  match cs.dropWhile (endsAsBlank separators) with
  | m :: rest =>
    if ends separators m then rest.dropWhile (endsAsBlank separators) else m :: rest
  | [] => []

/-- The text of characters. -/
def textOf (cs : List Marked) : String := String.ofList (cs.map Prod.fst)

/-- The value of the last variable. -/
def lastValue (separators : List Char) (cs : List Marked) : String :=
  let field := cs.takeWhile fun m => !ends separators m
  if (afterEnd separators (cs.drop field.length)).isEmpty then textOf field
  else textOf (cs.reverse.dropWhile (endsAsBlank separators)).reverse

/-- The values of a number of variables. -/
def values (separators : List Char) : (count : Nat) → List Marked → List String
  | 0, _ => []
  | 1, cs => [lastValue separators cs]
  | count + 1, cs =>
    let field := cs.takeWhile fun m => !ends separators m
    textOf field :: values separators count (afterEnd separators (cs.drop field.length))

/-- The values that a line gives to a number of variables. -/
def ofLine (separators : List Char) (count : Nat) (line : List Marked) : List String :=
  values separators count (line.dropWhile (endsAsBlank separators))

end IdlBuild.Shell.LineFields
