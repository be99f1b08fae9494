import IdlBuild.Tool.Calling
import IdlBuild.Tool.Entries
import IdlBuild.Tool.Listing
import IdlBuild.Tool.Paths
import IdlBuild.Tool.Regex.Reading

/-!
# Finding entries

`find` goes through trees of entries and does with each what its conditions say. A condition is a
question about the entry or something that is done with it, which counts as a question too.
-/

namespace IdlBuild.Tool.Finding

open Shell (Session Call Tool Caller pathOf)

/-! ### Conditions -/

/-- A number in a question: exactly, more or less than it. -/
structure Amount where
  order : Option Ordering
  number : Nat
deriving Inhabited

/-- Whether a number is as an amount says. -/
def Amount.holds (a : Amount) (n : Nat) : Bool :=
  match a.order with
  | none => n == a.number
  | some order => compare n a.number == order

/-- A question about an entry, or something that is done with it. -/
inductive Step where
  | name (folds : Bool) (pattern : String)
  | path (folds : Bool) (pattern : String)
  | expression (e : Regex.Expression) (folds : Bool)
  | kind (letters : List Char)
  | empty
  | size (amount : Amount) (unit : Nat)
  | newer (stamp : Int)
  /-- All bits, some bits, or exactly the bits. -/
  | mode (way : Char) (bits : Nat)
  | links (amount : Amount)
  | same (location : Location)
  | constant (answer : Bool)
  | print (ending : Char)
  | format (text : String)
  | listing
  | call (words : List String) (inside : Bool)
  /-- Calls a program once for many entries, by the number of the call. -/
  | gather (number : Nat) (words : List String)
  | delete
  | prune
  | quit
deriving Inhabited

/-- Whether a step does something. -/
def Step.acts : Step → Bool
  | print _ | format _ | listing | call _ _ | gather _ _ | delete => true
  | _ => false

/-- A condition. -/
inductive Condition where
  | step (s : Step)
  | not (a : Condition)
  | and (a b : Condition)
  | or (a b : Condition)
  | list (a b : Condition)
deriving Inhabited

/-- Whether a condition does something. -/
def Condition.acts : Condition → Bool
  | step s => s.acts
  | not a => a.acts
  | and a b | or a b | list a b => a.acts || b.acts

/-- What holds for a whole search. -/
structure Scope where
  least : Nat
  most : Option Nat
  /-- Whether directories come behind what is in them. -/
  depthFirst : Bool
  /-- Whether links are followed. -/
  follows : Bool
  /-- How many calls gather entries. -/
  gathers : Nat
deriving Inhabited

/-! ### Reading -/

/-- What is left of the words, and what was read for the whole search. -/
structure Source where
  words : List String
  scope : Scope
  /-- The word that was read last. -/
  last : String

/-- Reads a part of an expression. -/
abbrev Reader := StateT Source (Except String)

/-- Refuses an expression. -/
def refuse {α : Type} (message : String) : Reader α := throw message

/-- The next word, which stays there. -/
def peek : Reader (Option String) := return (← get).words.head?

/-- Passes over the next word. -/
def skip : Reader Unit :=
  modify fun s => { s with words := s.words.drop 1, last := s.words.head?.getD "" }

/-- The argument of a word. -/
def argument (word : String) : Reader String := do
  match ← peek with
  | some value =>
    modify fun s => { s with words := s.words.drop 1 }
    return value
  | none => refuse s!"missing argument to `{word}'"

/-- A number with a sign that says how to compare. -/
def amount? (cs : List Char) : Option Amount :=
  let (order, digits) : Option Ordering × List Char := match cs with
    | '+' :: rest => (some .gt, rest)
    | '-' :: rest => (some .lt, rest)
    | _ => (none, cs)
  if digits.isEmpty || !digits.all Char.isDigit then none
  else (String.ofList digits).toNat?.map fun n => ⟨order, n⟩

/-- An amount that is the argument of a word. -/
def amountOf (word : String) : Reader Amount := do
  let text ← argument word
  match amount? text.toList with
  | some amount => return amount
  | none => refuse s!"invalid argument `{text}' to `{word}'"

/-- A size: an amount and the number of bytes that it counts. -/
def sizeStep (text : String) : Reader Step := do
  let unit : Option (Nat × List Char) := match text.toList.reverse with
    | 'c' :: rest => some (1, rest)
    | 'w' :: rest => some (2, rest)
    | 'b' :: rest => some (512, rest)
    | 'k' :: rest => some (1024, rest)
    | 'M' :: rest => some (1048576, rest)
    | 'G' :: rest => some (1073741824, rest)
    | c :: rest => if c.isDigit then some (512, c :: rest) else none
    | [] => none
  match unit with
  | none =>
    let shown := String.ofList (text.toList.getLast?.toList)
    refuse s!"invalid -size type `{shown}'"
  | some (unit, digits) =>
    match amount? digits.reverse with
    | some amount => return .size amount unit
    | none => refuse s!"Invalid argument `{text}' to -size"

/-- The letters of kinds of entries. -/
def kindLetters (text : String) : Reader Step := do
  let pieces := Text.fields ',' text.toList
  match pieces.find? (·.length != 1) with
  | some _ =>
    if text.isEmpty then refuse "Arguments to -type should contain at least one letter"
    else refuse "Must separate multiple arguments to -type using: ','"
  | none =>
    let letters := pieces.flatten
    match letters.find? fun c => !"bcdpflsD".toList.contains c with
    | some c => refuse s!"Unknown argument to -type: {c}"
    | none => return .kind letters

/-- The bits that a text for permissions stands for. -/
def modeStep (text : String) : Reader Step := do
  let (way, body) : Char × String := match text.toList with
    | '-' :: rest => ('-', String.ofList rest)
    | '/' :: rest => ('/', String.ofList rest)
    | _ => ('=', text)
  match modeFrom? body false 0 0 with
  | some bits => return .mode way bits
  | none => refuse s!"invalid mode {quotedValue text}"

/-- The words of a call, up to what ends them. -/
def callWords (word : String) : (fuel : Nat) → (before : List String) →
    Reader (List String × Bool)
  | 0, _ => refuse s!"missing argument to `{word}'"
  | fuel + 1, before => do
    let next ← argument word
    if next == ";" then
      if before.isEmpty then refuse s!"missing argument to `{word}'"
      return (before.reverse, false)
    else if next == "+" && before.head? == some "\x7b\x7d" then return (before.tail.reverse, true)
    else callWords word fuel (next :: before)

/-- When an entry that is named was changed. -/
def stampOf (s : Session) (name : String) : Except String (Int × Location) :=
  match s.files.status (pathOf name) with
  | .ok (location, _) => .ok (s.machine.stampOf location, location)
  | .error fault => .error s!"{quotedName name}: {fault.reason}"

/-- The words behind which a pattern that was not quoted may have gone astray. -/
def patternWords : List String := ["-name", "-iname", "-path", "-ipath", "-wholename", "-regex"]

/-- Reads a single question. -/
def single (s : Session) (word : String) : Reader Step := do
  let before := (← get).last
  skip
  let constant (answer : Bool) : Reader Step := return .constant answer
  let onScope (change : Scope → Scope) : Reader Step := do
    modify fun s => { s with scope := change s.scope }
    return .constant true
  let depth (change : Nat → Scope → Scope) : Reader Step := do
    let text ← argument word
    if !text.isEmpty && text.toList.all Char.isDigit then onScope (change (text.toNat?.getD 0))
    else refuse <| s!"Expected a positive decimal integer argument to {word}, but got " ++
      quotedValue text
  match word with
  | "-name" => return .name false (← argument word)
  | "-iname" => return .name true (← argument word)
  | "-path" | "-wholename" => return .path false (← argument word)
  | "-ipath" | "-iwholename" => return .path true (← argument word)
  | "-regex" | "-iregex" =>
    match Regex.read .basic (← argument word).toList with
    | .ok e => return .expression e (word == "-iregex")
    | .error message => refuse message
  | "-regextype" =>
    let _ ← argument word
    constant true
  | "-type" | "-xtype" => kindLetters (← argument word)
  | "-empty" => return .empty
  | "-size" => sizeStep (← argument word)
  | "-newer" | "-anewer" | "-cnewer" =>
    match stampOf s (← argument word) with
    | .ok (stamp, _) => return .newer stamp
    | .error message => refuse message
  | "-samefile" =>
    match stampOf s (← argument word) with
    | .ok (_, location) => return .same location
    | .error message => refuse message
  | "-perm" => modeStep (← argument word)
  | "-links" => return .links (← amountOf word)
  | "-inum" =>
    let _ ← amountOf word
    constant false
  | "-mtime" | "-atime" | "-ctime" | "-mmin" | "-amin" | "-cmin" =>
    let amount ← amountOf word
    let isRecent := if word.endsWith "min" then 1 else 0
    constant (amount.holds isRecent)
  | "-user" | "-group" =>
    let name ← argument word
    if name == userName' || name == "0" then constant true
    else if name.toNat?.isSome then constant false
    else refuse s!"{quotedValue name} is not the name of a known {String.ofList (word.toList.drop 1)}"
  | "-nouser" | "-nogroup" | "-false" => constant false
  | "-uid" | "-gid" => constant ((← amountOf word).holds 0)
  | "-true" | "-readable" | "-writable" | "-noleaf" | "-daystart" | "-warn" | "-nowarn" | "-xdev"
  | "-mount" | "-ignore_readdir_race" => constant true
  | "-executable" => return .mode '/' 0o111
  | "-maxdepth" => depth fun n scope => { scope with most := some n }
  | "-mindepth" => depth fun n scope => { scope with least := n }
  | "-depth" | "-d" => onScope fun scope => { scope with depthFirst := true }
  | "-follow" => onScope fun scope => { scope with follows := true }
  | "-print" => return .print '\n'
  | "-print0" => return .print '\x00'
  | "-printf" => return .format (← argument word)
  | "-ls" => return .listing
  | "-delete" =>
    modify fun s => { s with scope := { s.scope with depthFirst := true } }
    return .delete
  | "-prune" => return .prune
  | "-quit" => return .quit
  | "-exec" | "-execdir" | "-ok" | "-okdir" =>
    let (words, gathers) ← callWords word ((← get).words.length + 1) []
    if gathers then
      let number := (← get).scope.gathers
      modify fun s => { s with scope := { s.scope with gathers := number + 1 } }
      return .gather number words
    else return .call words (word.endsWith "dir")
  | _ =>
    if word.startsWith "-" then refuse s!"unknown predicate `{word}'"
    else
      let hint := if patternWords.contains before && isThere s word then
          s!"\nfind: possible unquoted pattern after predicate `{before}'?"
        else ""
      refuse s!"paths must precede expression: `{word}'{hint}"
where
  /-- The name of the only user. -/
  userName' : String := "root"

/-- Whether a word joins two conditions. -/
def isJoint (word : String) : Bool := ["-o", "-or", "-a", "-and", ","].contains word

/-- Refuses a joint that nothing follows. -/
def expectMore (joint : String) : Reader Unit := do
  if (← peek).isNone then refuse s!"expected an expression after '{joint}'"

/-- Reads a condition that may be turned round; `fuel` bounds how often. -/
def negations (s : Session) (inner : Reader Condition) : (fuel : Nat) → Reader Condition
  | 0 => refuse "invalid expression"
  | fuel + 1 => do
    match ← peek with
    | none => refuse "invalid expression"
    | some word =>
      if word == "!" || word == "-not" then
        skip
        expectMore word
        return .not (← negations s inner fuel)
      else if word == "(" then
        skip
        let found ← inner
        match ← peek with
        | some ")" =>
          skip
          return found
        | _ =>
          refuse <| "invalid expression; I was expecting to find a ')' somewhere but did not " ++
            "see one."
      else if isJoint word then
        refuse <| "invalid expression; you have used a binary operator " ++
          s!"'{word}' with nothing before it."
      else if word == ")" then refuse "you have too many ')'"
      else return .step (← single s word)

/-- Reads on as long as joints follow; `fuel` bounds how often. -/
def joined (operand : Reader Condition) (joints : List String)
    (make : Condition → Condition → Condition) : (fuel : Nat) → Condition → Reader Condition
  | 0, left => return left
  | fuel + 1, left => do
    match ← peek with
    | some word =>
      if joints.contains word then
        skip
        expectMore word
        joined operand joints make fuel (make left (← operand))
      else return left
    | none => return left

/-- Reads conditions all of which have to hold; a joint may stand between them or not. -/
def together (operand : Reader Condition) : (fuel : Nat) → Condition → Reader Condition
  | 0, left => return left
  | fuel + 1, left => do
    match ← peek with
    | none => return left
    | some word =>
      if word == "-a" || word == "-and" then
        skip
        expectMore word
        together operand fuel (.and left (← operand))
      else if word == ")" || isJoint word then return left
      else together operand fuel (.and left (← operand))

/-- Reads conditions; `fuel` bounds how deep they are. -/
def lists (s : Session) : (fuel : Nat) → Reader Condition
  | 0 => refuse "invalid expression"
  | fuel + 1 => do
    let count := (← get).words.length + 1
    let negation := negations s (lists s fuel) count
    let conjunction : Reader Condition := do together negation count (← negation)
    let alternative : Reader Condition := do
      joined conjunction ["-o", "-or"] .or count (← conjunction)
    joined alternative [","] .list count (← alternative)

/-- What nothing was asked of. -/
def Scope.start (follows : Bool) : Scope := ⟨0, none, false, follows, 0⟩

/-- Reads the words behind the paths. What finds nothing to do prints. -/
def readCondition (s : Session) (follows : Bool) (words : List String) :
    Except String (Condition × Scope) :=
  if words.isEmpty then .ok (.step (.print '\n'), Scope.start follows)
  else do
    let (found, source) ← (lists s (words.length + 1)).run ⟨words, Scope.start follows, ""⟩
    match source.words with
    | [] =>
      if found.acts then return (found, source.scope)
      else return (.and found (.step (.print '\n')), source.scope)
    | _ => throw "you have too many ')'"

/-! ### Searching -/

/-- An entry that was come to. -/
structure Visit where
  path : String
  /-- The path that the search began with. -/
  start : String
  depth : Nat
  entry : Shown

/-- A search. -/
structure State where
  session : Session
  /-- The entries that calls have gathered, the last one first. -/
  gathered : Array (List String)
  prunes : Bool
  quits : Bool

/-- What a letter of a format stands for. -/
def formatValue (fs : FileSystem) (v : Visit) (letter : Char) : String :=
  match letter with
  | 'p' => v.path
  | 'f' => baseName v.path
  | 'h' => if v.path.toList.contains '/' then directoryName v.path else "."
  | 'P' =>
    let rest := v.path.toList.drop v.start.length
    String.ofList (rest.dropWhile (· == '/'))
  | 'H' => v.start
  | 'd' => toString v.depth
  | 'm' => String.ofList (Nat.toDigits 8 v.entry.mode)
  | 'M' => String.ofList v.entry.letters
  | 's' => toString v.entry.size
  | 'y' =>
    match v.entry.node with
    | .directory => "d"
    | .file .. => "f"
    | .link _ => "l"
  | 'l' =>
    match v.entry.node with
    | .link target => Shell.unitsOfPath target
    | _ => ""
  | 'u' | 'g' => "root"
  | 'U' | 'G' => "0"
  | 'n' => toString (v.entry.links fs)
  | 'b' => toString (v.entry.blocks * 2)
  | 'k' => toString v.entry.blocks
  | _ => ""

/-- A format filled in; `fuel` bounds its length. -/
def formatText (fs : FileSystem) (v : Visit) : (fuel : Nat) → List Char → List Char
  | 0, _ => []
  | _, [] => []
  | fuel + 1, '%' :: '%' :: cs => '%' :: formatText fs v fuel cs
  | fuel + 1, '%' :: cs =>
    let flags := cs.takeWhile fun c => c == '-' || c.isDigit
    match cs.drop flags.length with
    | letter :: rest =>
      let text := formatValue fs v letter
      let width := (String.ofList (flags.filter Char.isDigit)).toNat?.getD 0
      let fill := List.replicate (width - text.length) ' '
      (if flags.contains '-' then text.toList ++ fill else fill ++ text.toList) ++
        formatText fs v fuel rest
    | [] => ['%']
  | fuel + 1, '\\' :: c :: cs =>
    let unit := match c with
      | 'n' => ['\n']
      | 't' => ['\t']
      | '0' => ['\x00']
      | '\\' => ['\\']
      | _ => ['\\', c]
    unit ++ formatText fs v fuel cs
  | fuel + 1, c :: cs => c :: formatText fs v fuel cs

/-- A text in small letters, if letters count as the same. -/
def folded (folds : Bool) (text : String) : String := if folds then text.map Char.toLower else text

/-- Whether an entry is empty. -/
def isEmpty (fs : FileSystem) (e : Shown) : Bool :=
  match e.node with
  | .directory => (fs.children e.location).isEmpty
  | .file content _ => content.isEmpty
  | .link _ => false

/-- Deletes an entry. -/
def delete (c : Call) (v : Visit) (s : Session) : Bool × Session :=
  let outcome := match v.entry.node with
    | .directory => s.files.removeDirectory (pathOf v.path)
    | _ => s.files.removeFile (pathOf v.path)
  if v.path == "." then (true, s)
  else match outcome with
    | .ok files => (true, s.withFiles files)
    | .error fault =>
      (false, complain s s!"{c.name}: cannot delete {quotedName v.path}: {fault.reason}")

/-- Calls a program for an entry. -/
def callFor (caller : Caller) (c : Call) (words : List String) (s : Session) : Bool × Session :=
  match startFault? s words with
  | some fault =>
    let name := words.head?.getD ""
    (false, s.complain s!"{c.name}: {quotedName name}: {fault.reason}")
  | none =>
    let before := s.status
    let (done, signal) := callThrough caller words s
    let done := match signal with
      | some n =>
        let name := words.head?.getD ""
        done.complain s!"{c.name}: {quotedName name} terminated by signal {n}"
      | none => done
    (done.status == 0, done.withStatus before)

/-- Answers a question, or does what is to be done. -/
def step (caller : Caller) (c : Call) (v : Visit) (st : State) : Step → Bool × State
  | .name folds pattern =>
    (Shell.fitsPattern (folded folds pattern) (folded folds (baseName v.path)), st)
  | .path folds pattern => (Shell.fitsPattern (folded folds pattern) (folded folds v.path), st)
  | .expression e folds =>
    let s : Regex.Subject := ⟨v.path.toList.toArray, false, folds⟩
    ((Regex.matchAt? s e e.looksBack 0).any fun m => m.stop == s.units.size, st)
  | .kind letters =>
    (letters.contains (match v.entry.node with
      | .directory => 'd'
      | .file .. => if Shell.Machine.isDevice v.entry.location then 'c' else 'f'
      | .link _ => 'l'), st)
  | .empty => (isEmpty st.session.files v.entry, st)
  | .size amount unit => (amount.holds ((v.entry.size + unit - 1) / unit), st)
  | .newer stamp => (stamp < st.session.machine.stampOf v.entry.location, st)
  | .mode way bits =>
    let mode := v.entry.mode
    (match way with
      | '-' => mode &&& bits == bits
      | '/' => bits == 0 || (mode &&& bits) != 0
      | _ => mode == bits, st)
  | .links amount => (amount.holds (v.entry.links st.session.files), st)
  | .same location => (v.entry.location == location, st)
  | .constant answer => (answer, st)
  | .print ending =>
    (true, { st with session := put (v.path.toList ++ [ending]) st.session })
  | .format text =>
    let shown := formatText st.session.files v (text.length + 1) text.toList
    (true, { st with session := put shown st.session })
  | .listing =>
    let size := rightAligned 8 (toString v.entry.size)
    let letters := String.ofList v.entry.letters
    let blocks := rightAligned 6 (toString v.entry.blocks)
    let line := s!"        1 {blocks} {letters}   1 root     root     {size} Jan  1  1970 {v.path}"
    (true, { st with session := st.session.printLine line })
  | .call words inside =>
    let shown := if inside then "./" ++ baseName v.path else v.path
    let words := words.map fun word => String.ofList
      (replacedIn "\x7b\x7d".toList shown.toList (word.length + 1) word.toList)
    let (answer, session) := callFor caller c words st.session
    (answer, { st with session })
  | .gather number _ =>
    (true, { st with gathered := st.gathered.modify number fun paths => v.path :: paths })
  | .delete =>
    let (answer, session) := delete c v st.session
    (answer, { st with session })
  | .prune => (true, { st with prunes := true })
  | .quit => (false, { st with quits := true })

/-- Whether a condition holds for an entry, after all that is done on the way. -/
def holds (caller : Caller) (c : Call) (v : Visit) : Condition → State → Bool × State
  | .step s, st => if st.quits then (false, st) else step caller c v st s
  | .not a, st =>
    let (answer, st) := holds caller c v a st
    (!answer, st)
  | .and a b, st =>
    match holds caller c v a st with
    | (true, st) => holds caller c v b st
    | (false, st) => (false, st)
  | .or a b, st =>
    match holds caller c v a st with
    | (true, st) => (true, st)
    | (false, st) => holds caller c v b st
  | .list a b, st => holds caller c v b (holds caller c v a st).2

/-- Goes through an entry and what is in it; `fuel` bounds how deep. -/
def visit (caller : Caller) (c : Call) (condition : Condition) (scope : Scope) : (fuel : Nat) →
    Visit → State → State
  | 0, _, st => st
  | fuel + 1, v, st =>
    if st.quits then st
    else
      let considered (st : State) : State :=
        if v.depth < scope.least || st.quits then st else (holds caller c v condition st).2
      let inside (st : State) : State :=
        if v.entry.node != .directory || st.prunes || scope.most.any (· ≤ v.depth) then
          { st with prunes := false }
        else (st.session.files.children v.entry.location).foldl (fun st (name, node) =>
          let name := Text.Units.ofBytes name
          let path := if v.path.endsWith "/" then v.path ++ name else v.path ++ "/" ++ name
          let location := v.entry.location ++ [Text.Units.bytesOf name]
          let (location, node) := if scope.follows then
              (st.session.files.status (pathOf path)).toOption.getD (location, node)
            else (location, node)
          visit caller c condition scope fuel
            ⟨path, v.start, v.depth + 1, ⟨name, location, node⟩⟩ st) st
      let st := { st with prunes := false }
      if scope.depthFirst then considered { inside st with prunes := false }
      else inside (considered st)

/-- The calls that gather entries. -/
def gathering : Condition → List (Nat × List String)
  | .step (.gather number words) => [(number, words)]
  | .step _ => []
  | .not a => gathering a
  | .and a b | .or a b | .list a b => gathering a ++ gathering b

/-- How deep entries may lie. -/
def depthLimit : Nat := 1000

/-- Whether a word begins the conditions. -/
def beginsCondition (word : String) : Bool :=
  (word.startsWith "-" && word != "-") || word == "(" || word == "!" || word == ")" || word == ","

/-- The options that say what links are, with what is behind them. -/
def linkOptions : List String → Bool × Bool × List String
  | "-L" :: rest =>
    let (_, _, rest) := linkOptions rest
    (true, true, rest)
  | "-H" :: rest =>
    let (follows, _, rest) := linkOptions rest
    (follows, true, rest)
  | "-P" :: rest => linkOptions rest
  | words => (false, false, words)

/-- Finds entries. -/
def find (caller : Caller) : Tool := fun c s =>
  let (follows, followsFirst, words) := linkOptions c.arguments
  let paths := words.takeWhile (!beginsCondition ·)
  let s := s.withStatus 0
  match readCondition s follows (words.drop paths.length) with
  | .error message => complain s s!"{c.name}: {message}"
  | .ok (condition, scope) =>
    let paths := if paths.isEmpty then ["."] else paths
    let started : State := ⟨s, Array.replicate scope.gathers [], false, false⟩
    let done := paths.foldl (fun st path =>
      let found := if followsFirst || scope.follows then
          match st.session.files.status (pathOf path) with
          | .ok found => .ok found
          | .error _ => st.session.files.linkStatus (pathOf path)
        else st.session.files.linkStatus (pathOf path)
      match found with
      | .error fault =>
        let shown := quotedName path
        { st with session := complain st.session s!"{c.name}: {shown}: {fault.reason}" }
      | .ok (location, node) =>
        visit caller c condition scope depthLimit ⟨path, path, 0, ⟨path, location, node⟩⟩ st) started
    (gathering condition).foldl (fun s (number, words) =>
      match (done.gathered[number]?).getD [] with
      | [] => s
      | paths =>
        let (answer, s) := callFor caller c (words ++ paths.reverse) s
        if answer then s else s.withStatus 1) done.session

end IdlBuild.Tool.Finding
