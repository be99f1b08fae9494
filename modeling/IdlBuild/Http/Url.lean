import IdlBuild.Http.Host

/-!
# Addresses of services

An address is read into its parts and written in one normal form: scheme and host in lower case, the
default number after the host left out, dots in the path worked off, and what may not stand in a
part percent-encoded. Only addresses of the web and of files are read that way in all parts; of any
other scheme most characters are kept. An address is read on its own or, as the target of a
redirect, against the address that it was found at.
-/

namespace IdlBuild.Http

open Text (fields)

/-- The parts of an address, all of them encoded. Without an authority there is no host; with one
the host may still be empty. -/
structure Url where
  scheme : String
  /-- A user and a password, as they stand before the host. -/
  credentials : String
  host : Option String
  portNumber : Option Nat
  path : String
  query : Option String
  fragment : Option String
deriving DecidableEq, Repr

namespace Url

/-! ### Writing -/

/-- The authority with its slashes. -/
def authorityText (u : Url) : String :=
  match u.host with
  | some host =>
    "//" ++ u.credentials ++ host ++ (match u.portNumber with
      | some portNumber => ":" ++ toString portNumber
      | none => "")
  | none => ""

/-- The path, kept apart from what could be taken for an authority. -/
def pathText (u : Url) : String :=
  if u.host.isNone && "//".toList.isPrefixOf u.path.toList then "/." ++ u.path else u.path

/-- The address in its normal form. -/
def text (u : Url) : String :=
  u.scheme ++ ":" ++ u.authorityText ++ u.pathText ++
  (match u.query with
    | some query => "?" ++ query
    | none => "") ++
  (match u.fragment with
    | some fragment => "#" ++ fragment
    | none => "")

/-- Whether an address has a host. -/
def hasHost (u : Url) : Bool := u.host.any fun host => !host.isEmpty

/-- Whether an address is one of the web that requests can be sent to. -/
def isRequestable (u : Url) : Bool := u.hasHost && (u.scheme == "http" || u.scheme == "https")

/-- The length of the longest address that a request can carry. -/
def lengthLimit : Nat := 65534

/-- Whether a request can carry an address: there are hosts that may be named and not be asked. -/
def isCarried (u : Url) : Bool :=
  !u.host.any (fun host => host.toList.any "\"`\x7b\x7d".toList.contains) &&
    u.text.utf8ByteSize ≤ lengthLimit

/-! ### Characters of the parts -/

/-- A printable ASCII character that is none of the given ones. -/
def keptBut (dropped : String) (c : Char) : Bool :=
  0x21 ≤ c.toNat && c.toNat ≤ 0x7E && !dropped.toList.contains c

/-- The characters that stand for themselves in a path. -/
def keptInPath : Char → Bool := keptBut "\"<>`#?\x7b\x7d"

/-- The characters that stand for themselves in a user or a password. -/
def keptInCredentials : Char → Bool := keptBut "\"<>`#?\x7b\x7d/:;=@[\\]^|"

/-- The characters that stand for themselves in a query of the web. -/
def keptInWebQuery : Char → Bool := keptBut "\"#<>'"

/-- The characters that stand for themselves in any other query. -/
def keptInQuery : Char → Bool := keptBut "\"#<>"

/-- The characters that stand for themselves in a fragment. -/
def keptInFragment : Char → Bool := keptBut "\"<>`"

/-- The characters that stand for themselves in a path without segments. -/
def keptInOpaquePath (c : Char) : Bool := 0x20 ≤ c.toNat && c.toNat ≤ 0x7E

/-- A part with all but the kept characters percent-encoded. -/
def encodedBy (keep : Char → Bool) (cs : List Char) : String :=
  String.ofList (percentEncode keep cs)

/-- Whether an encoded text stands for well-formed text. -/
def isDecodable (cs : List Char) : Bool :=
  (Text.decode (percentDecode (cs.flatMap String.utf8EncodeChar))).isSome

/-- The address without its credentials, which a request carries elsewhere; they stay if they are
not text. -/
def withoutCredentials (u : Url) : Url :=
  let (user, password) := (Text.cutFirst ':' u.credentials.toList.dropLast).getD
    (u.credentials.toList.dropLast, [])
  if isDecodable user && (user ≠ [] || isDecodable password) then { u with credentials := "" } else u

/-! ### Schemes -/

/-- How the addresses of a scheme are read. -/
inductive Family where
  /-- With a host and segments. -/
  | web
  | file
  | other
deriving DecidableEq, Repr

/-- The family of a scheme. -/
def family (scheme : String) : Family :=
  if ["http", "https", "ws", "wss", "ftp"].contains scheme then .web
  else if scheme == "file" then .file
  else .other

/-- The number after the host that a scheme implies when none is written. -/
def defaultPort? (scheme : String) : Option Nat :=
  if scheme == "http" || scheme == "ws" then some 80
  else if scheme == "https" || scheme == "wss" then some 443
  else if scheme == "ftp" then some 21
  else none

/-- A character that separates segments. -/
def isSlash (family : Family) (c : Char) : Bool := c == '/' || (c == '\\' && family != .other)

/-! ### Paths -/

/-- A segment with its encoded dots as dots. -/
def plainDots : List Char → List Char
  | '%' :: '2' :: 'e' :: rest | '%' :: '2' :: 'E' :: rest => '.' :: plainDots rest
  | c :: rest => c :: plainDots rest
  | [] => []

/-- Whether a text is a letter and a colon, or a bar for the colon. -/
def isDriveLetter : List Char → Bool
  | [letter, mark] => letter.isAlpha && (mark == ':' || mark == '|')
  | _ => false

/-- Whether a text is a letter and a colon. -/
def isNormalDriveLetter (cs : List Char) : Bool := isDriveLetter cs && cs.getLast? == some ':'

/-- The text after the last slash. -/
def lastSegment (path : List Char) : List Char := (path.reverse.takeWhile (· != '/')).reverse

/-- A path without its last segment, the slash before it kept. -/
def withoutLast (family : Family) (path : List Char) : List Char :=
  if family = .file ∧ isNormalDriveLetter (lastSegment path) then path
  else path.take (path.length - (lastSegment path).length)

/-- A path that ends in a slash without that slash, where there is a segment before it to lose; a
drive letter is none. -/
def withoutSlash (path : List Char) : List Char :=
  let before := path.dropLast
  if path.getLast? = some '/' ∧ before.contains '/' ∧ !isDriveLetter (lastSegment before) then before
  else path

/-- A path one segment shorter. -/
def shortened (family : Family) (path : List Char) : List Char :=
  match (fields '/' path).filter (· ≠ []) with
  | [only] =>
    if family = .file ∧ isNormalDriveLetter only then path else withoutLast family path
  | _ => withoutLast family path

/-- A path that ends in a slash. -/
def withSlash (path : List Char) : List Char :=
  if path.getLast? = some '/' then path else path ++ ['/']

/-- Adds an ordinary segment to a path. In front of the path of a file a letter with a bar is a
drive letter, and what follows a drive letter is a segment of its own. -/
def addPlain (family : Family) (path segment : List Char) : List Char :=
  let encoded := percentEncode keptInPath segment
  if family = .file ∧ path = ['/'] then
    if isDriveLetter encoded then path ++ encoded.dropLast ++ [':']
    else if isNormalDriveLetter (encoded.take 2) then
      path ++ encoded.take 2 ++ ['/'] ++ encoded.drop 2
    else path ++ encoded
  else path ++ encoded

/-- Adds segments to a path: one dot stays, two go one up, and the last ends without a slash unless
it was dots. -/
def addSegments (family : Family) (path : List Char) : List (List Char) → List Char
  | [] => path
  | segment :: rest =>
    let plain := plainDots segment
    let last := rest.isEmpty
    if plain = ['.', '.'] then
      let shorter := shortened family (withoutSlash path)
      addSegments family (if last then shorter else withSlash shorter) rest
    else if plain = ['.'] then addSegments family (withSlash path) rest
    else
      let longer := addPlain family path segment
      addSegments family (if last then longer else longer ++ ['/']) rest

/-- The path that a text adds to a path. -/
def readPath (family : Family) (path cs : List Char) : List Char :=
  let segments := fields '/' (cs.map fun c => if isSlash family c then '/' else c)
  let read := addSegments family path segments
  if family = .file then '/' :: read.dropWhile (· == '/') else read

/-! ### Reading the parts -/

/-- The text before the first character of a class, and the rest from it on. -/
def splitAt (stop : Char → Bool) (cs : List Char) : List Char × List Char :=
  (cs.takeWhile (!stop ·), cs.dropWhile (!stop ·))

/-- The text without the characters that addresses ignore. -/
def cleaned (s : String) : List Char :=
  let outer := fun c : Char => decide (c.toNat ≤ 0x20)
  let inside := ((s.toList.dropWhile outer).reverse.dropWhile outer).reverse
  inside.filter fun c => c != '\t' && c != '\n' && c != '\r'

/-- The scheme of an address, in lower case, and the text after its colon. -/
def readScheme (cs : List Char) : Option (String × List Char) :=
  let (scheme, rest) := splitAt (· == ':') cs
  let valid := match scheme with
    | first :: more => first.isAlpha &&
        more.all fun c => c.isAlphanum || c == '+' || c == '-' || c == '.'
    | [] => false
  match rest with
  | ':' :: after => if valid then some (String.ofList (scheme.map Char.toLower), after) else none
  | _ => none

/-- The number after a host, none where it is the default or is left out. -/
def readPort (scheme : String) (cs : List Char) : Except String (Option Nat) :=
  if cs = [] then .ok none
  else if !cs.all Char.isDigit then .error "invalid port number"
  else
    let number := cs.foldl (fun n c => n * 10 + (c.toNat - 0x30)) 0
    if 65535 < number then .error "invalid port number"
    else .ok (if some number = defaultPort? scheme then none else some number)

/-- Query and fragment of the text after a path. -/
def readTail (family : Family) (cs : List Char) : Option String × Option String :=
  let (query, rest) := splitAt (· == '#') cs
  let fragment := match rest with
    | _ :: fragment => some (encodedBy keptInFragment fragment)
    | [] => none
  match query with
  | '?' :: query =>
    (some (encodedBy (if family = .other then keptInQuery else keptInWebQuery) query), fragment)
  | _ => (none, fragment)

/-- The user and the password before a host, with the sign after them. -/
def readCredentials (cs : List Char) : String :=
  let (user, password) := splitAt (· == ':') cs
  let password := password.drop 1
  if user = [] ∧ password = [] then ""
  else
    encodedBy keptInCredentials user ++
      (if password = [] then "" else ":" ++ encodedBy keptInCredentials password) ++ "@"

/-- The end of a host: a colon that is not inside square brackets. -/
def splitHost : (inside : Bool) → List Char → List Char × List Char
  | _, [] => ([], [])
  | inside, c :: cs =>
    if c = ':' ∧ !inside then ([], c :: cs)
    else
      let (host, rest) := splitHost (if c = '[' then true else if c = ']' then false else inside) cs
      (c :: host, rest)

/-- Credentials, host and number of an authority. -/
def readAuthority (scheme : String) (cs : List Char) :
    Except String (String × String × Option Nat) := do
  let (credentials, place) := match Text.cutLast '@' cs with
    | some (before, place) => (readCredentials before, place)
    | none => ("", cs)
  let (host, rest) := splitHost false place
  if host = [] ∧ (family scheme = .web ∨ rest ≠ [] ∨ !credentials.isEmpty) then .error "empty host"
  else
    let host ← if family scheme = .other then readOpaqueHost host else readHost host
    let portNumber ← readPort scheme (rest.drop 1)
    return (credentials, String.ofList host, portNumber)

/-! ### Whole addresses -/

/-- The path of an address with an authority, from the text after it, which begins with a slash if
there is any. -/
def pathAfterAuthority (scheme : String) (cs : List Char) : String :=
  String.ofList <|
    if family scheme = .other then
      if cs = [] then [] else readPath .other ['/'] (cs.drop 1)
    else readPath (family scheme) ['/'] (cs.drop 1)

/-- The address after a scheme and two slashes. -/
def readAfterSlashes (scheme : String) (cs : List Char) : Except String Url := do
  let (authority, rest) :=
    splitAt (fun c => isSlash (family scheme) c || c == '?' || c == '#') cs
  let (credentials, host, portNumber) ← readAuthority scheme authority
  let (path, rest) := splitAt (fun c => c == '?' || c == '#') rest
  let (query, fragment) := readTail (family scheme) rest
  return ⟨scheme, credentials, some host, portNumber, pathAfterAuthority scheme path, query, fragment⟩

/-- The address of a file, from the text after its scheme. -/
def readFile (cs : List Char) : Except String Url := do
  let (place, tail) := splitAt (fun c => c == '?' || c == '#') cs
  let (query, fragment) := readTail .file tail
  let slashes := place.takeWhile (isSlash .file)
  let (host, path) :=
    if 2 ≤ slashes.length then splitAt (isSlash .file) (place.drop 2) else ([], place)
  let drive := isDriveLetter host
  let host ← if drive ∨ host = [] then .ok [] else readHost host
  let host := if host = "localhost".toList then [] else host
  let path := if drive then place.drop 2 else path
  let path := if path.head?.any (isSlash .file) then path.drop 1 else path
  return ⟨"file", "", some (String.ofList host), none,
    String.ofList (readPath .file ['/'] path), query, fragment⟩

/-- An address without an authority, from the text after its scheme. -/
def readBare (scheme : String) (cs : List Char) : Url :=
  let (path, tail) := splitAt (fun c => c == '?' || c == '#') cs
  let (query, fragment) := readTail .other tail
  let path := match path with
    | '/' :: rest => readPath .other ['/'] rest
    | opaquePath => percentEncode keptInOpaquePath opaquePath
  ⟨scheme, "", none, none, String.ofList path, query, fragment⟩

/-- An address with a scheme, from the text after it. -/
def readAfterScheme (scheme : String) (cs : List Char) : Except String Url :=
  match family scheme with
  | .web => readAfterSlashes scheme (cs.dropWhile (isSlash .web))
  | .file => readFile cs
  | .other =>
    match cs with
    | '/' :: '/' :: rest => readAfterSlashes scheme rest
    | _ => .ok (readBare scheme cs)

/-- An address that stands on its own. -/
def read (s : String) : Except String Url :=
  match readScheme (cleaned s) with
  | none => .error "relative URL without a base"
  | some (scheme, rest) => readAfterScheme scheme rest

/-- An address as it is written at another address, one of the web. -/
def resolve (base : Url) (s : String) : Except String Url :=
  let cs := cleaned s
  match readScheme cs with
  | some (scheme, rest) =>
    if scheme = base.scheme ∧ (rest.takeWhile (isSlash .web)).length < 2 then relative rest
    else readAfterScheme scheme rest
  | none => relative cs
where
  relative (cs : List Char) : Except String Url :=
    match cs with
    | '/' :: '/' :: rest => readAfterSlashes base.scheme rest
    | a :: b :: rest =>
      if isSlash .web a ∧ isSlash .web b then
        readAfterSlashes base.scheme (rest.dropWhile (isSlash .web))
      else .ok (atBase cs)
    | _ => .ok (atBase cs)
  atBase (cs : List Char) : Url :=
    let (path, rest) := splitAt (fun c => c == '?' || c == '#') cs
    let (query, fragment) := readTail .web rest
    let newPath := match path with
      | [] => base.path
      | c :: more => String.ofList <|
        if isSlash .web c then readPath .web ['/'] more
        else readPath .web (withoutLast .web base.path.toList) path
    let query := if path = [] ∧ query = none then base.query else query
    { base with path := newPath, query, fragment }

end Url

end IdlBuild.Http
