/-!
# Regular expressions

What regular expressions are made of, and where they match. A match begins as early as possible and
is as long as possible. `ends` computes the places where matches of an expression end; the part of a
text that a group stands for is found afterwards, from the outside to the inside, each piece as long
as the others allow.
-/

namespace IdlBuild.Tool.Regex

/-! ### Expressions -/

/-- A member of a set of units. -/
inductive Member where
  | unit (c : Char)
  | range (low high : Char)
  /-- The units of a class. -/
  | listed (units : List Char)
deriving DecidableEq, Repr

/-- A place that is seen from its neighbours. -/
inductive Edge where
  | lineStart
  | lineEnd
  | textStart
  | textEnd
  | wordStart
  | wordEnd
  | wordEdge
  | inWord
deriving DecidableEq, Repr

/-- A regular expression. -/
inductive Expression where
  | empty
  | unit (c : Char)
  | any
  | set (negated : Bool) (members : List Member)
  | edge (edge : Edge)
  | group (number : Nat) (body : Expression)
  /-- What a group stands for once more. -/
  | again (number : Nat)
  | both (first second : Expression)
  | either (first second : Expression)
  | repeated (least : Nat) (most : Option Nat) (body : Expression)
deriving DecidableEq, Repr

namespace Expression

/-- Whether an expression asks for what a group stands for. -/
def looksBack : Expression → Bool
  | again _ => true
  | group _ body | repeated _ _ body => body.looksBack
  | both a b | either a b => a.looksBack || b.looksBack
  | _ => false

/-- The number of groups in an expression. -/
def groupCount : Expression → Nat
  | group _ body => body.groupCount + 1
  | repeated _ _ body => body.groupCount
  | both a b | either a b => a.groupCount + b.groupCount
  | _ => 0

/-- The expression for a text. -/
def ofUnits : List Char → Expression
  | [] => empty
  | [c] => unit c
  | c :: cs => both (unit c) (ofUnits cs)

end Expression

/-! ### Texts -/

/-- A text in which matches are looked for. -/
structure Subject where
  units : Array Char
  /-- Whether upper and lower case are the same. -/
  folds : Bool
  /-- Whether lines begin and end inside the text as well. -/
  byLines : Bool

/-- Whether a unit belongs to words. -/
def isWordUnit (c : Char) : Bool := c.isAlphanum || c == '_'

namespace Subject

/-- Whether a word unit stands at a place. -/
def hasWordAt (s : Subject) (place : Nat) : Bool := (s.units[place]?).any isWordUnit

/-- Whether a word unit stands before a place. -/
def hasWordBefore (s : Subject) (place : Nat) : Bool := 0 < place && s.hasWordAt (place - 1)

/-- Whether an edge is at a place. -/
def isAt (s : Subject) (edge : Edge) (place : Nat) : Bool :=
  match edge with
  | .lineStart => place = 0 || (s.byLines && s.units[place - 1]? == some '\n')
  | .lineEnd => place = s.units.size || (s.byLines && s.units[place]? == some '\n')
  | .textStart => place = 0
  | .textEnd => place = s.units.size
  | .wordStart => !s.hasWordBefore place && s.hasWordAt place
  | .wordEnd => s.hasWordBefore place && !s.hasWordAt place
  | .wordEdge => s.hasWordBefore place != s.hasWordAt place
  | .inWord => s.hasWordBefore place == s.hasWordAt place

/-- Whether two units are the same in a text. -/
def same (s : Subject) (a b : Char) : Bool := a == b || (s.folds && a.toLower == b.toLower)

/-- Whether a member holds a unit. -/
def holds (c : Char) : Member → Bool
  | .unit d => c == d
  | .range low high => low ≤ c && c ≤ high
  | .listed units => units.contains c

/-- Whether a set holds a unit in a text. -/
def accepts (s : Subject) (negated : Bool) (members : List Member) (c : Char) : Bool :=
  let found := members.any (holds c) ||
    (s.folds && (members.any (holds c.toLower) || members.any (holds c.toUpper)))
  found != negated

end Subject

/-! ### Where matches end -/

/-- What groups stand for: the beginning and the end of each that has been passed. -/
abbrev Groups := List (Nat × Nat × Nat)

/-- A place in a text, with what groups stand for there if the expression looks back. -/
structure Place where
  index : Nat
  groups : Groups
deriving DecidableEq, Repr

/-- Puts a place among others, those further on first. A place that is there already is not put in
again. -/
def insertPlace (p : Place) : List Place → List Place
  | [] => [p]
  | q :: rest =>
    if p = q then q :: rest
    else if q.index < p.index then p :: q :: rest
    else q :: insertPlace p rest

/-- All places of two lists. -/
def mergedPlaces (ps qs : List Place) : List Place := qs.foldl (fun ps q => insertPlace q ps) ps

/-- The places that are reached by any number of steps, among them those where the steps begin;
`fuel` bounds the number of steps. -/
def reachable (step : List Place → List Place) : (fuel : Nat) → (front seen : List Place) →
    List Place
  | 0, _, seen => seen
  | fuel + 1, front, seen =>
    let new := (step front).filter fun p => !seen.contains p
    if new.isEmpty then seen else reachable step fuel new (mergedPlaces seen new)

/-- The places that are reached by a number of steps. -/
def stepped (step : List Place → List Place) : (count : Nat) → List Place → List Place
  | 0, places => places
  | count + 1, places => if places.isEmpty then [] else stepped step count (step places)

/-- The text that a group stands for. -/
def groupText (s : Subject) (groups : Groups) (number : Nat) : Option (List Char) :=
  (groups.lookup number).map fun (start, stop) => (s.units.extract start stop).toList

/-- Whether a text stands at a place. -/
def standsAt (s : Subject) (text : List Char) (index : Nat) : Bool :=
  text.zipIdx.all fun (c, i) => (s.units[index + i]?).any (s.same c)

/-- The places where matches end that begin at one of some places. With `keeps`, places know what
groups stand for. -/
def ends (s : Subject) (keeps : Bool) : Expression → List Place → List Place
  | .empty, places => places
  | .unit c, places =>
    places.filterMap fun p =>
      if (s.units[p.index]?).any (s.same c) then some { p with index := p.index + 1 } else none
  | .any, places =>
    places.filterMap fun p =>
      if p.index < s.units.size then some { p with index := p.index + 1 } else none
  | .set negated members, places =>
    places.filterMap fun p =>
      if (s.units[p.index]?).any (s.accepts negated members) then
        some { p with index := p.index + 1 }
      else none
  | .edge e, places => places.filter fun p => s.isAt e p.index
  | .group number body, places =>
    if keeps then
      places.foldl (fun found p =>
        mergedPlaces found ((ends s keeps body [p]).map fun q =>
          { q with groups := (number, p.index, q.index) ::
              q.groups.filter fun g => g.1 != number })) []
    else ends s keeps body places
  | .again number, places =>
    mergedPlaces [] (places.filterMap fun p =>
      match groupText s p.groups number with
      | some text =>
        if standsAt s text p.index then some { p with index := p.index + text.length } else none
      | none => none)
  | .both a b, places => ends s keeps b (ends s keeps a places)
  | .either a b, places => mergedPlaces (ends s keeps a places) (ends s keeps b places)
  | .repeated least most body, places =>
    let step := ends s keeps body
    let first := stepped step least places
    match most with
    | none => reachable step (s.units.size + 1) first first
    | some n => reachable step (n - least) first first

/-! ### Groups of a match -/

/-- Whether a match of an expression that begins at one place may end at another one. -/
def spans (s : Subject) (e : Expression) (start stop : Nat) : Bool :=
  (ends s false e [⟨start, []⟩]).any fun p => p.index == stop

/-- The places where a first expression may end, the last one first, so that a second one reaches
the end. -/
def meeting? (s : Subject) (a b : Expression) (start stop : Nat) : Option Nat :=
  ((ends s false a [⟨start, []⟩]).map Place.index).find? fun i => spans s b i stop

/-- What groups stand for in a repetition from one place to another one; `fuel` bounds how often the
body stands there. -/
def repeatedGroups (s : Subject) (body : Expression) (inner : Nat → Nat → Groups → Groups) :
    (fuel : Nat) → (least : Nat) → (most : Option Nat) → (start stop : Nat) → Groups → Groups
  | 0, _, _, _, _, groups => groups
  | fuel + 1, least, most, start, stop, groups =>
    if start = stop && least = 0 then groups
    else
      let rest := Expression.repeated (least - 1) (most.map (· - 1)) body
      let candidates := ((ends s false body [⟨start, []⟩]).map Place.index).filter fun i =>
        start < i || stop = start
      match candidates.find? fun i => spans s rest i stop with
      | none => groups
      | some i =>
        repeatedGroups s body inner fuel (least - 1) (most.map (· - 1)) i stop
          (inner start i groups)

/-- What groups stand for in a match from one place to another one. -/
def groupsOf (s : Subject) : Expression → (start stop : Nat) → Groups → Groups
  | .group number body, start, stop, groups =>
    (number, start, stop) :: (groupsOf s body start stop groups).filter fun g => g.1 != number
  | .both a b, start, stop, groups =>
    match meeting? s a b start stop with
    | some i => groupsOf s b i stop (groupsOf s a start i groups)
    | none => groups
  | .either a b, start, stop, groups =>
    if spans s a start stop then groupsOf s a start stop groups
    else groupsOf s b start stop groups
  | .repeated least most body, start, stop, groups =>
    if body.groupCount = 0 then groups
    else repeatedGroups s body (groupsOf s body) (stop - start + least + 1) least most start stop
      groups
  | _, _, _, groups => groups

/-! ### Searching -/

/-- A match: where it begins and ends, and what groups stand for. -/
structure Match where
  start : Nat
  stop : Nat
  groups : Groups
deriving DecidableEq, Repr

/-- The longest match that begins at a place. -/
def matchAt? (s : Subject) (e : Expression) (looksBack : Bool) (start : Nat) : Option Match :=
  match ends s looksBack e [⟨start, []⟩] with
  | [] => none
  | p :: _ =>
    some ⟨start, p.index, if looksBack then p.groups else groupsOf s e start p.index []⟩

/-- The first match among those that begin at a place or behind it; `fuel` bounds the number of
places. -/
def searchFrom (s : Subject) (e : Expression) (looksBack : Bool) : (fuel : Nat) → Nat →
    Option Match
  | 0, _ => none
  | fuel + 1, start =>
    match matchAt? s e looksBack start with
    | some found => some found
    | none => searchFrom s e looksBack fuel (start + 1)

/-- The first match in a text from a place on. -/
def search (e : Expression) (s : Subject) (start : Nat) : Option Match :=
  searchFrom s e e.looksBack (s.units.size + 1 - start) start

/-- Whether an expression matches somewhere in a text. -/
def isFound (e : Expression) (s : Subject) : Bool :=
  let looksBack := e.looksBack
  (List.range (s.units.size + 1)).any fun i => !(ends s looksBack e [⟨i, []⟩]).isEmpty

/-- Matches that do not overlap, from a place on. An empty match does not follow another one
immediately; `fuel` bounds their number. -/
def allMatchesFrom (e : Expression) (s : Subject) : (fuel : Nat) → (start : Nat) →
    (last : Option Nat) → List Match
  | 0, _, _ => []
  | fuel + 1, start, last =>
    if s.units.size < start then []
    else match search e s start with
      | none => []
      | some found =>
        if found.start = found.stop then
          if last == some found.start then allMatchesFrom e s fuel (start + 1) none
          else found :: allMatchesFrom e s fuel (found.stop + 1) none
        else found :: allMatchesFrom e s fuel found.stop (some found.stop)

/-- All matches in a text that do not overlap. -/
def allMatches (e : Expression) (s : Subject) : List Match :=
  allMatchesFrom e s (s.units.size * 2 + 2) 0 none

end IdlBuild.Tool.Regex
