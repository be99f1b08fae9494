import IdlBuild.Shell.Arithmetic
import IdlBuild.Shell.Pattern
import IdlBuild.Shell.Reader
import IdlBuild.Shell.Session

/-!
# Expansion

What the words of a command become when it is run: parameters, the output of commands and sums are
put in, what came from unquoted ones is cut into fields, and an unquoted pattern becomes the paths
that it stands for. How the output of a script is captured is given as a parameter.
-/

namespace IdlBuild.Shell

open Text (Bytes)

/-- What a word has been expanded to so far. -/
inductive Item where
  | char (c : Char) (quoted : Bool)
  /-- A character of an unquoted expansion, at which a field may end. -/
  | loose (c : Char)
  /-- A border between two fields. -/
  | border
  /-- A field is here even if it is empty. -/
  | present
deriving DecidableEq, Repr

namespace Expansion

/-! ### Items -/

/-- A text that came out of an expansion. -/
def itemsOf (quoted : Bool) (text : String) : List Item :=
  if quoted then .present :: text.toList.map (.char · true) else text.toList.map .loose

/-- A character that was written without quotes, as part of an unquoted expansion. -/
def loosened : Item → Item
  | .char c false => .loose c
  | item => item

/-- The text of items that make one field, with something in place of the borders. -/
def textOf (joint : String) (items : List Item) : String :=
  String.ofList (items.flatMap fun
    | .char c _ | .loose c => [c]
    | .border => joint.toList
    | .present => [])

/-- The characters of items that make one field, with whether they were quoted. -/
def markedOf (items : List Item) : List Marked :=
  items.filterMap fun
    | .char c quoted => some (c, quoted)
    | .loose c => some (c, false)
    | _ => none

/-- All arguments, each a field of its own. -/
def argumentItems (quoted : Bool) : List String → List Item
  | [] => []
  | [last] => itemsOf quoted last
  | first :: rest => itemsOf quoted first ++ .border :: argumentItems quoted rest

/-! ### Home directories -/

/-- The home directory of a user, or of nobody in particular. -/
def homeOf? (s : Session) (user : List Char) : Option String :=
  if user.isEmpty then s.valueOf? "HOME"
  else if user == "root".toList then some "/root" else none

/-- Whether a character ends the name of a user. -/
def endsUser (inValue : Bool) (c : Char) : Bool := c == '/' || (inValue && c == ':')

/-- A text at the front of a word, with the home directory that it begins with as quoted text. The
name of a user has to end in the text, unless nothing comes after that. -/
def withHome (s : Session) (inValue last : Bool) (text : String) : Word :=
  match text.toList with
  | '~' :: cs =>
    let user := cs.takeWhile fun c => !endsUser inValue c
    let rest := cs.drop user.length
    if rest.isEmpty && !last then [.text text false]
    else match homeOf? s user with
      | some home => if home.isEmpty then [.text text false]
        else [.text home true, .text (String.ofList rest) false]
      | none => [.text text false]
  | _ => [.text text false]

/-- A word with the home directory that it begins with. -/
def withHomeInFront (s : Session) : Word → Word
  | .text text false :: rest => withHome s false rest.isEmpty text ++ rest
  | word => word

/-- The pieces of an assigned text behind its colons, each with the home directory that it begins
with. `first` says whether the text stands in front. -/
def withHomes (s : Session) (last : Bool) : (first : Bool) → List (List Char) → Word
  | _, [] => []
  | first, [piece] =>
    let text := String.ofList piece
    if first then withHome s true last text else [.text text false]
  | first, piece :: rest =>
    let text := String.ofList piece
    (if first then withHome s true true text else [.text text false]) ++
      .text ":" false :: withHomes s last true rest

/-- The value of an assignment with the home directories in it. -/
def withHomesInValue (s : Session) : (first : Bool) → Word → Word
  | _, [] => []
  | first, .text text false :: rest =>
    withHomes s rest.isEmpty first (Text.fields ':' text.toList) ++ withHomesInValue s false rest
  | _, piece :: rest => piece :: withHomesInValue s false rest

/-! ### Pieces -/

/-- Runs a script and gives what it prints. -/
abbrev Capture := Command → Session → String × Session

/-- What a parameter becomes; `word` expands another word, and `pattern` one that is a pattern. -/
def parameter (word : Word → Session → List Item × Session) (name : String) (use : Use)
    (quoted : Bool) (s : Session) : List Item × Session :=
  let value := s.parameter? name
  let isAll := name == "@" || name == "*"
  let isThere (evenEmpty : Bool) : Bool := match value with
    | none => false
    | some text => !(evenEmpty && text.isEmpty)
  let missing (s : Session) : List Item × Session :=
    if s.options.contains 'u' && !isAll then ([], s.fail s!"{name}: parameter not set" 2)
    else (itemsOf quoted "", s)
  let shown (s : Session) : List Item × Session :=
    if name == "@" then (argumentItems quoted s.arguments, s)
    else if name == "*" && !quoted then (argumentItems false s.arguments, s)
    else match value with
      | some text => (itemsOf quoted text, s)
      | none => missing s
  let other (pieces : Word) (s : Session) : List Item × Session :=
    if quoted then word pieces s
    else
      let (items, s) := word (withHomeInFront s pieces) s
      (items.map loosened, s)
  let cut (f : List PatternItem → List Char → List Char) (pattern : Word) :
      List Item × Session :=
    match value with
    | none => missing s
    | some text =>
      let (items, s) := word (withHomeInFront s pattern) s
      let rest := f (readPattern (markedOf items)) text.toList
      (itemsOf quoted (String.ofList rest), s)
  match use with
  | .value => shown s
  | .size =>
    match value with
    | some text => (itemsOf quoted (toString text.length), s)
    | none =>
      let (_, s) := missing s
      (itemsOf quoted "0", s)
  | .orDefault evenEmpty pieces => if isThere evenEmpty then shown s else other pieces s
  | .ifSet evenEmpty pieces =>
    if isThere evenEmpty then other pieces s else (itemsOf quoted "", s)
  | .orAssign evenEmpty pieces =>
    if isThere evenEmpty then shown s
    else
      let (items, s) := other pieces s
      if s.flow != .going then (items, s)
      else if !Reader.isName name.toList then ([], s.fail s!"{name}: bad variable name" 2)
      else
        let text := textOf s.joint items
        (itemsOf quoted text, s.assign name text)
  | .orFail evenEmpty pieces =>
    if isThere evenEmpty then shown s
    else
      let (items, s) := other pieces s
      let message := textOf s.joint items
      let told := if !message.isEmpty then message
        else if evenEmpty then "parameter not set or null" else "parameter not set"
      if s.flow != .going then ([], s) else ([], s.fail s!"{name}: {told}" 2)
  | .cutFront longest pattern => cut (Shell.cutFront longest) pattern
  | .cutBack longest pattern => cut (Shell.cutBack longest) pattern
  | .unknown => ([], s.fail "Bad substitution" 2)

/-- What a piece becomes; `fuel` bounds the depth of words in words. -/
def piece (capture : Capture) : (fuel : Nat) → Piece → Session → List Item × Session
  | 0, _, s => ([], s)
  | fuel + 1, p, s =>
    let word (pieces : Word) (s : Session) : List Item × Session :=
      pieces.foldl (fun (items, s) p =>
        if s.flow != .going then (items, s)
        else
          let (more, s) := piece capture fuel p s
          (items ++ more, s)) ([], s)
    match p with
    | .text text quoted =>
      ((if quoted then [.present] else []) ++ text.toList.map (.char · quoted), s)
    | .capture script quoted =>
      let (text, s) := capture script s
      (itemsOf quoted text, s)
    | .sum expression quoted =>
      let (items, s) := word expression s
      let text := textOf s.joint items
      if s.flow != .going then ([], s)
      else match Arithmetic.evaluate text s.bindings s.fixed with
        | .ok (n, bindings) => (itemsOf quoted (toString n), { s with bindings })
        | .error fault => ([], s.fail (fault.message text) 2)
    | .parameter name use quoted => parameter word name use quoted s

/-- How deep words may stand in words. -/
def depth : Nat := 64

/-- What pieces become. -/
def itemsOfPieces (capture : Capture) : Word → Session → List Item × Session
  | [], s => ([], s)
  | p :: rest, s =>
    let (first, s) := piece capture depth p s
    if s.flow != .going then (first, s)
    else
      let (others, s) := itemsOfPieces capture rest s
      (first ++ others, s)

/-- What a word becomes before it is cut into fields. -/
def items (capture : Capture) (word : Word) (s : Session) : List Item × Session :=
  itemsOfPieces capture (withHomeInFront s word) s

/-- A word as one text, not cut into fields. -/
def text (capture : Capture) (word : Word) (s : Session) : String × Session :=
  let (found, s) := items capture word s
  (textOf s.joint found, s)

/-- The value of an assignment. -/
def valueText (capture : Capture) (word : Word) (s : Session) : String × Session :=
  let (found, s) := itemsOfPieces capture (withHomesInValue s true word) s
  (textOf s.joint found, s)

/-- A word as one pattern, not cut into fields. -/
def pattern (capture : Capture) (word : Word) (s : Session) : List PatternItem × Session :=
  let (found, s) := items capture word s
  (readPattern (markedOf found), s)

/-! ### Fields -/

/-- Whether a separator only counts between other characters. -/
def isBlankSeparator (c : Char) : Bool := c == ' ' || c == '\t' || c == '\n'

/-- The items after the separators that belong to one border: blanks, and at most one other
separator. -/
def afterSeparators (separators : List Char) : (sawMark : Bool) → List Item → List Item
  | sawMark, .loose c :: rest =>
    if separators.contains c then
      if isBlankSeparator c then afterSeparators separators sawMark rest
      else if sawMark then .loose c :: rest
      else afterSeparators separators true rest
    else .loose c :: rest
  | _, rest => rest

theorem length_afterSeparators_le (separators : List Char) (sawMark : Bool) (items : List Item) :
    (afterSeparators separators sawMark items).length ≤ items.length := by
  fun_induction afterSeparators separators sawMark items <;> simp_all <;> omega

/-- Cuts items into fields. `current` is the field that has begun, backwards. -/
def cutFields (separators : List Char) : (current : Option (List Item)) → List Item →
    List (List Item)
  | current, [] => (current.map List.reverse).toList
  | current, .border :: rest => (current.getD []).reverse :: cutFields separators (some []) rest
  | current, .present :: rest => cutFields separators (some (.present :: current.getD [])) rest
  | current, .char c quoted :: rest =>
    cutFields separators (some (.char c quoted :: current.getD [])) rest
  | current, .loose c :: rest =>
    if separators.contains c then
      have := length_afterSeparators_le separators (!isBlankSeparator c) rest
      let others :=
        cutFields separators none (afterSeparators separators (!isBlankSeparator c) rest)
      match current with
      | some field => field.reverse :: others
      | none => if isBlankSeparator c then others else [.present] :: others
    else cutFields separators (some (.loose c :: current.getD [])) rest
termination_by _ items => items.length

/-- The fields that items make. An unquoted empty one is no field. -/
def fieldsOf (separators : List Char) (found : List Item) : List (List Item) :=
  (cutFields separators none found).filter (· ≠ [])

/-! ### Paths -/

/-- Whether a name is what a pattern stands for: a dot in front has to be written. -/
def nameMatches (pattern : List PatternItem) (name : String) : Bool :=
  (name.toList.head? != some '.' || pattern.head? == some (.exactly '.')) &&
    matchesPattern pattern name.toList

/-- The names in a directory, itself and the one above it among them. -/
def namesIn (files : FileSystem) (directory : String) : List String :=
  match files.readDirectory (pathOf (if directory.isEmpty then "." else directory)) with
  | .error _ => []
  | .ok entries => "." :: ".." :: entries.map fun entry => Text.Units.ofBytes entry.1

/-- The paths that the pieces of a pattern stand for, behind what has been found. -/
def pathsOf (files : FileSystem) : (found : String) → List (List Marked) → List String
  | found, [] => [found]
  | found, piece :: rest =>
    let slash := if rest.isEmpty then "" else "/"
    if !hasPattern piece then
      let next := found ++ plainOf (readPattern piece)
      if rest.isEmpty then
        (if piece.isEmpty || (files.linkStatus (pathOf next)).toBool then [next] else [])
      else pathsOf files (next ++ slash) rest
    else
      ((namesIn files found).filter (nameMatches (readPattern piece))).flatMap fun name =>
        if rest.isEmpty || files.isDirectoryPath (pathOf (found ++ name)) then
          pathsOf files (found ++ name ++ slash) rest
        else []

/-- The pieces of a pattern between its slashes. -/
def patternPieces : List Marked → List (List Marked)
  | [] => [[]]
  | (c, quoted) :: rest =>
    if c == '/' then [] :: patternPieces rest
    else match patternPieces rest with
      | [] => [[(c, quoted)]]
      | first :: others => ((c, quoted) :: first) :: others

/-- The texts that a field stands for: the paths of a pattern, or itself if there are none. -/
def globbed (s : Session) (field : List Item) : List String :=
  let marked := markedOf field
  if s.options.contains 'f' || !hasPattern marked then [textOf "" field]
  else match pathsOf s.files "" (patternPieces marked) with
    | [] => [textOf "" field]
    | paths => paths.mergeSort fun a b => !(decide (b < a))

/-- The fields that one word becomes. -/
def fieldsOfWord (capture : Capture) (word : Word) (s : Session) : List String × Session :=
  let (found, s) := items capture word s
  if s.flow != .going then ([], s)
  else ((fieldsOf s.separators found).flatMap (globbed s), s)

/-- The fields that words become. -/
def fields (capture : Capture) : List Word → Session → List String × Session
  | [], s => ([], s)
  | word :: rest, s =>
    let (first, s) := fieldsOfWord capture word s
    if s.flow != .going then ([], s)
    else
      let (others, s) := fields capture rest s
      (first ++ others, s)

/-- The builtins whose arguments may be assignments. -/
def assigningNames : List String := ["export", "readonly", "local", "alias"]

/-- The fields that the words of a command become. Behind a name that takes assignments, a word that
is one is not cut into fields. -/
def commandFields (capture : Capture) : (found : List String) → List Word → Session →
    List String × Session
  | found, [], s => (found, s)
  | found, word :: rest, s =>
    let assigns := match found with
      | [] => false
      | "command" :: name :: _ => assigningNames.contains name
      | name :: _ => assigningNames.contains name
    match if assigns then Reader.assignment? word else none with
    | some (name, value) =>
      let (text, s) := valueText capture value s
      if s.flow != .going then ([], s)
      else commandFields capture (found ++ [name ++ "=" ++ text]) rest s
    | none =>
      let (fields, s) := fieldsOfWord capture word s
      if s.flow != .going then ([], s) else commandFields capture (found ++ fields) rest s

end Expansion

end IdlBuild.Shell
