import IdlBuild.Tool.Regex.Basic
import IdlBuild.Tool.Translating

/-!
# Reading regular expressions

The two ways in which regular expressions are written: the basic one, in which groups, bars and
counts are marked by a backslash, and the extended one, in which they are not. Both are taken apart
into the same tokens first.
-/

namespace IdlBuild.Tool.Regex

/-! ### Dialects -/

/-- How regular expressions are written. -/
structure Dialect where
  /-- Whether groups, bars and counts stand without backslashes. -/
  extended : Bool
  /-- Whether a repetition of nothing is refused; otherwise it is passed over. -/
  strict : Bool
  /-- Whether a backslash is an escape inside of sets. -/
  escapesInSets : Bool
  /-- Whether what groups stand for may be asked for. -/
  looksBack : Bool
deriving DecidableEq, Repr

/-- The basic way. -/
def Dialect.basic : Dialect := ⟨false, true, false, true⟩

/-- The extended way. -/
def Dialect.extendedOf (strict : Bool) : Dialect := ⟨true, strict, false, true⟩

/-- The way of programs for records, which have no groups to ask for. -/
def Dialect.records : Dialect := ⟨true, true, true, false⟩

/-! ### Tokens -/

/-- A piece of a regular expression as it is written. -/
inductive Token where
  | item (e : Expression)
  | repeated (least : Nat) (most : Option Nat)
  | opening
  | closing
  | bar
deriving DecidableEq, Repr

/-- What is wrong with a regular expression. -/
abbrev Fault := String

/-- What is said about a set without an end. -/
def openSet (d : Dialect) : Fault :=
  if d.looksBack then "Unmatched [, [^, [:, [., or [=" else "bad class -- [], [^] or ["

/-- What is said about a repetition of nothing. -/
def nothingRepeated (d : Dialect) : Fault :=
  if d.looksBack then "Invalid preceding regular expression" else "missing operand"

/-- What is said about counts that make no sense. -/
def wrongCounts (d : Dialect) : Fault :=
  if d.looksBack then "Invalid content of \\\x7b\\\x7d" else "bad interval expression"

/-- What is said about a group without an end. -/
def openGroup (d : Dialect) : Fault :=
  if d.looksBack then "Unmatched ( or \\(" else "missing ')'"

/-- What an escape letter stands for in every dialect, if it does. -/
def escapedClass? (c : Char) : Option Expression :=
  let space := (classUnits? "space").getD []
  let word := allUnits.filter isWordUnit
  match c with
  | 'w' => some (.set false [.listed word])
  | 'W' => some (.set true [.listed word])
  | 's' => some (.set false [.listed space])
  | 'S' => some (.set true [.listed space])
  | 'b' => some (.edge .wordEdge)
  | 'B' => some (.edge .inWord)
  | '<' => some (.edge .wordStart)
  | '>' => some (.edge .wordEnd)
  | '`' => some (.edge .textStart)
  | '\'' => some (.edge .textEnd)
  | _ => none

/-- Reads one unit of a set, which may stand between `[.` and `.]`. -/
def setUnit (d : Dialect) (cs : List Char) : Except Fault (Char × List Char) :=
  match cs with
  | '[' :: '.' :: c :: '.' :: ']' :: rest => .ok (c, rest)
  | '\\' :: c :: rest =>
    if d.escapesInSets then
      .ok ((if c == 'n' then '\n' else if c == 't' then '\t' else if c == 'r' then '\r' else c), rest)
    else .ok ('\\', c :: rest)
  | c :: rest => .ok (c, rest)
  | [] => .error (openSet d)

/-- Reads the members of a set up to its end; `fuel` bounds their number. -/
def readMembers (d : Dialect) : (fuel : Nat) → (isFirst : Bool) → List Char →
    Except Fault (List Member × List Char)
  | 0, _, _ => .error (openSet d)
  | fuel + 1, isFirst, cs => do
    match cs with
    | [] => throw (openSet d)
    | ']' :: rest =>
      if isFirst then more fuel ']' rest else return ([], rest)
    | '[' :: ':' :: rest =>
      let name := rest.takeWhile (· != ':')
      match rest.drop name.length with
      | ':' :: ']' :: behind =>
        match classUnits? (String.ofList name) with
        | none => throw (if d.looksBack then "Invalid character class name" else openSet d)
        | some units =>
          let (members, rest) ← readMembers d fuel false behind
          return (.listed units :: members, rest)
      | _ => throw (openSet d)
    | '[' :: '=' :: c :: '=' :: ']' :: rest =>
      let (members, rest) ← readMembers d fuel false rest
      return (.unit c :: members, rest)
    | _ =>
      let (c, rest) ← setUnit d cs
      if c == '-' && !isFirst && d.looksBack && rest.head? != some ']' then
        throw "Invalid range end"
      more fuel c rest
where
  /-- Reads on behind a unit, which may begin a range. -/
  more (fuel : Nat) (c : Char) (rest : List Char) : Except Fault (List Member × List Char) := do
    match rest with
    | '-' :: ']' :: behind =>
      let (members, rest) ← readMembers d fuel false ('-' :: ']' :: behind)
      return (.unit c :: members, rest)
    | '-' :: behind =>
      let (high, rest) ← setUnit d behind
      if high < c && d.looksBack then throw "Invalid range end"
      let (members, rest) ← readMembers d fuel false rest
      return (.range c high :: members, rest)
    | _ =>
      let (members, rest) ← readMembers d fuel false rest
      return (.unit c :: members, rest)

/-- Reads a set behind its opening bracket. -/
def readSetItem (d : Dialect) (cs : List Char) : Except Fault (Expression × List Char) := do
  let (negated, body) := match cs with
    | '^' :: rest => (true, rest)
    | _ => (false, cs)
  if body.isEmpty && d.looksBack then throw "Invalid regular expression"
  let (members, rest) ← readMembers d (body.length + 1) true body
  return (.set negated members, rest)

/-- Reads the counts of a repetition behind its opening brace; none if there are no counts. -/
def readCounts (d : Dialect) (cs : List Char) :
    Except Fault (Option ((Nat × Option Nat) × List Char)) := do
  let low := cs.takeWhile Char.isDigit
  let rest := cs.drop low.length
  let (high?, rest) := match rest with
    | ',' :: more =>
      let ds := more.takeWhile Char.isDigit
      (some ds, more.drop ds.length)
    | _ => (none, rest)
  let value (ds : List Char) : Nat := ((String.ofList ds).toNat?).getD 0
  let closed := match rest, d.extended with
    | '\x7d' :: rest, true => some rest
    | '\\' :: '\x7d' :: rest, false => some rest
    | _, _ => none
  let counts : Nat × Option Nat := match high? with
    | none => (value low, some (value low))
    | some [] => (value low, none)
    | some ds => (value low, some (value ds))
  match closed with
  | none =>
    if d.extended then return none
    else if rest.isEmpty then throw "Unmatched \\\x7b"
    else throw (wrongCounts d)
  | some rest =>
    if low.isEmpty && high?.isNone then
      if d.extended then return none else throw (wrongCounts d)
    else if counts.2.any (· < counts.1) then throw (wrongCounts d)
    else if 32767 < counts.1 || counts.2.any (32767 < ·) then
      throw "Regular expression too big"
    else return some (counts, rest)

/-- Whether a repetition that comes next has nothing to repeat. -/
def beginsPiece (before : Option Token) : Bool :=
  match before with
  | none | some .opening | some .bar => true
  | _ => false

/-- Reads tokens; `before` is the one that came last, and `fuel` bounds their number. -/
def tokensFrom (d : Dialect) : (fuel : Nat) → (before : Option Token) → List Char →
    Except Fault (List Token)
  | 0, _, _ => .ok []
  | _, _, [] => .ok []
  | fuel + 1, before, c :: cs => do
    let next (t : Token) (rest : List Char) : Except Fault (List Token) :=
      (tokensFrom d fuel (some t) rest).map (t :: ·)
    let literal (c : Char) (rest : List Char) := next (.item (.unit c)) rest
    let repeatable : Bool := !beginsPiece before && before != some (.item (.edge .lineStart))
    let count (least : Nat) (most : Option Nat) (rest : List Char) : Except Fault (List Token) :=
      next (.repeated least most) rest
    match c with
    | '\\' =>
      match cs with
      | [] => throw "Trailing backslash"
      | e :: rest =>
        if !d.extended && e == '(' then next .opening rest
        else if !d.extended && e == ')' then next .closing rest
        else if !d.extended && e == '|' then next .bar rest
        else if !d.extended && e == '+' then
          if repeatable then count 1 none rest else literal '+' rest
        else if !d.extended && e == '?' then
          if repeatable then count 0 (some 1) rest else literal '?' rest
        else if !d.extended && e == '\x7b' then
          if beginsPiece before then throw (nothingRepeated d)
          else match ← readCounts d rest with
            | some ((least, most), rest) => count least most rest
            | none => literal '\x7b' rest
        else if d.looksBack && '1' ≤ e && e ≤ '9' then
          next (.item (.again (e.toNat - 0x30))) rest
        else if e == 'n' && !d.looksBack then literal '\n' rest
        else if e == 't' && !d.looksBack then literal '\t' rest
        else match if d.looksBack then escapedClass? e else none with
          | some item => next (.item item) rest
          | none => literal e rest
    | '.' => next (.item .any) cs
    | '[' =>
      let (item, rest) ← readSetItem d cs
      next (.item item) rest
    | '*' =>
      if repeatable then count 0 none cs
      else if !d.extended then literal '*' cs
      else if d.strict then
        throw (if beginsPiece before || d.looksBack then nothingRepeated d
          else "syntax error ^* or ^+")
      else if beginsPiece before then tokensFrom d fuel before cs
      else count 0 none cs
    | '^' =>
      if d.extended || beginsPiece before then next (.item (.edge .lineStart)) cs
      else literal '^' cs
    | '$' =>
      let closes := match cs with
        | [] | '\\' :: ')' :: _ | '\\' :: '|' :: _ => true
        | _ => false
      if d.extended || closes then next (.item (.edge .lineEnd)) cs else literal '$' cs
    | _ =>
      if !d.extended then literal c cs
      else match c with
        | '(' => next .opening cs
        | ')' => next .closing cs
        | '|' => next .bar cs
        | '+' | '?' =>
          if beginsPiece before then
            if d.strict then throw (nothingRepeated d) else tokensFrom d fuel before cs
          else if !repeatable && !d.looksBack then throw "syntax error ^* or ^+"
          else if c == '+' then count 1 none cs else count 0 (some 1) cs
        | '\x7b' =>
          match ← readCounts d cs with
          | some ((least, most), rest) =>
            if beginsPiece before then
              if d.strict then throw (nothingRepeated d) else tokensFrom d fuel before rest
            else count least most rest
          | none => literal '\x7b' cs
        | _ => literal c cs

/-! ### Expressions -/

/-- Two expressions one behind the other. -/
def behind (a b : Expression) : Expression :=
  if a = .empty then b else if b = .empty then a else .both a b

/-- What is open while tokens are put together: the alternatives so far, the branch that is being
read as its pieces, last one first, and the number of the group. -/
structure Level where
  alternatives : Option Expression
  pieces : List Expression
  number : Nat

namespace Level

/-- A level at its beginning. -/
def start (number : Nat) : Level := ⟨none, [], number⟩

/-- The branch that is being read. -/
def branch (l : Level) : Expression := l.pieces.foldl (fun e piece => behind piece e) .empty

/-- Whether the branch that is being read may not end here: it is empty, and must not be. -/
def isRefused (d : Dialect) (l : Level) : Bool := !d.looksBack && l.pieces.isEmpty

/-- The expression of a level. -/
def expression (l : Level) : Expression :=
  match l.alternatives with
  | none => l.branch
  | some before => .either before l.branch

end Level

/-- Puts tokens together; `open'` are the levels around the one that is being read, and `count` is
the number of groups so far. -/
def assemble (d : Dialect) (level : Level) (open' : List Level) (count : Nat) (closed : List Nat) :
    List Token → Except Fault Expression
  | [] =>
    if !open'.isEmpty then .error (openGroup d)
    else if level.alternatives.isSome && level.isRefused d then .error (nothingRepeated d)
    else .ok level.expression
  | token :: rest =>
    match token with
    | .item (.again n) =>
      if closed.contains n then
        assemble d { level with pieces := .again n :: level.pieces } open' count closed rest
      else .error "Invalid back reference"
    | .item e => assemble d { level with pieces := e :: level.pieces } open' count closed rest
    | .repeated least most =>
      match level.pieces with
      | [] => .error (nothingRepeated d)
      | e :: pieces =>
        assemble d { level with pieces := .repeated least most e :: pieces } open' count closed rest
    | .opening => assemble d (.start (count + 1)) (level :: open') (count + 1) closed rest
    | .closing =>
      match open' with
      | [] =>
        if d.extended && (!d.strict || !d.looksBack) then
          assemble d { level with pieces := .unit ')' :: level.pieces } open' count closed rest
        else .error "Unmatched ) or \\)"
      | outer :: others =>
        if level.isRefused d then .error (nothingRepeated d)
        else
          let group := Expression.group level.number level.expression
          assemble d { outer with pieces := group :: outer.pieces } others count
            (level.number :: closed) rest
    | .bar =>
      if level.isRefused d then .error (nothingRepeated d)
      else
        assemble d { level with alternatives := some level.expression, pieces := [] } open' count
          closed rest

/-- What is said about repetitions of nothing that are passed over, from a place where one may
begin or not; `fuel` bounds the length. -/
def idleRepetitions : (fuel : Nat) → (begins : Bool) → List Char → List String
  | 0, _, _ => []
  | _, _, [] => []
  | fuel + 1, _, '\\' :: _ :: cs => idleRepetitions fuel false cs
  | fuel + 1, begins, c :: cs =>
    let behind (n : Nat) : List String := idleRepetitions fuel begins (cs.drop n)
    match c with
    | '[' =>
      let body := match cs with
        | '^' :: ']' :: rest | ']' :: rest | '^' :: rest => rest
        | _ => cs
      idleRepetitions fuel false ((body.dropWhile (· != ']')).drop 1)
    | '(' | '|' | '^' => idleRepetitions fuel true cs
    | '*' | '+' | '?' =>
      if begins then s!"{c} at start of expression" :: behind 0 else behind 0
    | '\x7b' =>
      let counts := cs.takeWhile fun c => c.isDigit || c == ','
      if begins && !counts.isEmpty && cs[counts.length]? == some '\x7d' then
        "\x7b...\x7d at start of expression" :: behind (counts.length + 1)
      else idleRepetitions fuel false cs
    | _ => idleRepetitions fuel false cs

/-- Reads a regular expression. -/
def read (d : Dialect) (cs : List Char) : Except Fault Expression := do
  let tokens ← tokensFrom d (cs.length + 1) none cs
  assemble d (.start 0) [] 0 [] tokens

end IdlBuild.Tool.Regex
