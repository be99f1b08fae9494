/-!
# Patterns

Patterns of a shell: `*` stands for any text, `?` for any character, and a bracket for one character
of a set. A character that was quoted stands for itself.
-/

namespace IdlBuild.Shell

/-- A member of a bracket. -/
inductive SetMember where
  | range (first last : Char)
  | named (name : String)
deriving DecidableEq, Repr

/-- An element of a pattern. -/
inductive PatternItem where
  | exactly (c : Char)
  | anyOne
  | anyText
  | oneOf (negated : Bool) (members : List SetMember)
deriving DecidableEq, Repr

namespace SetMember

/-- Whether a character belongs to a named class. -/
def inClass (name : String) (c : Char) : Bool :=
  match name with
  | "alpha" => c.isAlpha
  | "digit" => c.isDigit
  | "alnum" => c.isAlphanum
  | "upper" => c.isUpper
  | "lower" => c.isLower
  | "space" => c.isWhitespace || c == '\x0b' || c == '\x0c'
  | "blank" => c == ' ' || c == '\t'
  | "punct" => 0x21 ≤ c.toNat && c.toNat ≤ 0x7E && !c.isAlphanum
  | "xdigit" => c.isDigit || ('a' ≤ c && c ≤ 'f') || ('A' ≤ c && c ≤ 'F')
  | _ => false

/-- Whether a character is a member. -/
def holds (c : Char) : SetMember → Bool
  | range first last => first ≤ c && c ≤ last
  | named name => inClass name c

end SetMember

/-- Whether one character is what an element stands for. -/
def PatternItem.accepts (c : Char) : PatternItem → Bool
  | exactly d => c == d
  | anyOne => true
  | anyText => false
  | oneOf negated members => members.any (SetMember.holds c) != negated

/-- Whether a pattern stands for a whole text. -/
def matchesPattern : List PatternItem → List Char → Bool
  | [], cs => cs.isEmpty
  | .anyText :: items, [] => matchesPattern items []
  | .anyText :: items, c :: cs =>
    matchesPattern items (c :: cs) || matchesPattern (.anyText :: items) cs
  | _ :: _, [] => false
  | item :: items, c :: cs => item.accepts c && matchesPattern items cs
termination_by items cs => items.length + cs.length

/-! ### Reading -/

/-- A character with whether it was quoted. -/
abbrev Marked := Char × Bool

/-- The name of a class up to `:]`. -/
def readClassName : List Marked → Option (List Char × List Marked)
  | (':', _) :: (']', _) :: rest => some ([], rest)
  | (c, _) :: rest => (readClassName rest).map fun (name, rest) => (c :: name, rest)
  | [] => none

/-- The members of a bracket up to its end; `fuel` bounds their number. -/
def readMembers : (fuel : Nat) → (isFirst : Bool) → List Marked →
    Option (List SetMember × List Marked)
  | 0, _, _ => none
  | _, _, [] => none
  | fuel + 1, isFirst, (c, quoted) :: rest =>
    if c == ']' && !quoted && !isFirst then some ([], rest)
    else if c == '[' && !quoted && (rest.head?.map Prod.fst) == some ':' then
      match readClassName (rest.drop 1) with
      | some (name, rest) =>
        (readMembers fuel false rest).map fun (members, rest) =>
          (.named (String.ofList name) :: members, rest)
      | none =>
        (readMembers fuel false rest).map fun (members, rest) => (.range c c :: members, rest)
    else match rest with
      | ('-', false) :: (last, lastQuoted) :: after =>
        if last == ']' && !lastQuoted then
          (readMembers fuel false rest).map fun (members, rest) => (.range c c :: members, rest)
        else
          (readMembers fuel false after).map fun (members, rest) => (.range c last :: members, rest)
      | _ => (readMembers fuel false rest).map fun (members, rest) => (.range c c :: members, rest)

/-- A whole bracket after its first character. -/
def readBracket (marked : List Marked) : Option (PatternItem × List Marked) :=
  let (negated, body) := match marked with
    | ('!', false) :: rest => (true, rest)
    | ('^', false) :: rest => (true, rest)
    | _ => (false, marked)
  (readMembers (body.length + 1) true body).map fun (members, rest) =>
    (.oneOf negated members, rest)

/-- The pattern that marked characters are; `fuel` bounds their number. -/
def readPatternWithin : (fuel : Nat) → List Marked → List PatternItem
  | 0, _ => []
  | _, [] => []
  | fuel + 1, (c, true) :: rest => .exactly c :: readPatternWithin fuel rest
  | fuel + 1, ('*', false) :: rest => .anyText :: readPatternWithin fuel rest
  | fuel + 1, ('?', false) :: rest => .anyOne :: readPatternWithin fuel rest
  | fuel + 1, ('[', false) :: rest =>
    match readBracket rest with
    | some (item, rest) => item :: readPatternWithin fuel rest
    | none => .exactly '[' :: readPatternWithin fuel rest
  | fuel + 1, ('\\', false) :: (c, _) :: rest => .exactly c :: readPatternWithin fuel rest
  | fuel + 1, (c, false) :: rest => .exactly c :: readPatternWithin fuel rest

/-- The pattern that marked characters are. -/
def readPattern (marked : List Marked) : List PatternItem :=
  readPatternWithin (marked.length + 1) marked

/-- Whether a name fits a pattern in which nothing is quoted. -/
def fitsPattern (pattern name : String) : Bool :=
  matchesPattern (readPattern (pattern.toList.map fun c => (c, false))) name.toList

/-- Whether marked characters hold anything that a pattern would not take as it is. -/
def hasPattern (marked : List Marked) : Bool :=
  (readPattern marked).any fun
    | .exactly _ => false
    | _ => true

/-- The text that a pattern stands for if it is the only one. -/
def plainOf (items : List PatternItem) : String :=
  String.ofList (items.filterMap fun
    | .exactly c => some c
    | _ => none)

/-! ### Cutting -/

/-- The front parts of a list with the rest that each leaves, shortest first. -/
def splits {α : Type} : List α → List (List α × List α)
  | [] => [([], [])]
  | a :: as => ([], a :: as) :: (splits as).map fun (front, rest) => (a :: front, rest)

/-- A text without the front part that a pattern stands for. -/
def cutFront (longest : Bool) (items : List PatternItem) (cs : List Char) : List Char :=
  let candidates := if longest then (splits cs).reverse else splits cs
  match candidates.find? fun (front, _) => matchesPattern items front with
  | some (_, rest) => rest
  | none => cs

/-- A text without the back part that a pattern stands for. -/
def cutBack (longest : Bool) (items : List PatternItem) (cs : List Char) : List Char :=
  let candidates := if longest then splits cs else (splits cs).reverse
  match candidates.find? fun (_, rest) => matchesPattern items rest with
  | some (front, _) => front
  | none => cs

end IdlBuild.Shell
