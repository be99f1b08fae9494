import IdlBuild.Shell.Pattern
import IdlBuild.Tool.Input
import IdlBuild.Tool.Modes
import IdlBuild.Tool.Ordering

/-!
# What directories hold

`ls` shows the names of entries in order, with as much about each as is asked for, and `stat` what is
known of single entries.
-/

namespace IdlBuild.Tool

open Shell (Session Call Tool pathOf)

/-! ### Entries -/

/-- An entry as it is shown. -/
structure Shown where
  name : String
  location : Location
  node : Node

/-- The number of bytes of an entry. -/
def Shown.size (e : Shown) : Nat :=
  match e.node with
  | .directory => 4096
  | .file content _ => content.length
  | .link target => target.text.utf8ByteSize

/-- The permissions of an entry. -/
def Shown.mode (e : Shown) : Nat :=
  match e.node with
  | .directory => 0o755
  | .file _ mode => mode
  | .link _ => 0o777

/-- How many blocks of 1024 bytes an entry takes. -/
def Shown.blocks (e : Shown) : Nat :=
  match e.node with
  | .directory => 4
  | .file content _ => (content.length + 4095) / 4096 * 4
  | .link _ => 0

/-- How many names an entry has. -/
def Shown.links (fs : FileSystem) (e : Shown) : Nat :=
  match e.node with
  | .directory =>
    2 + ((fs.children e.location).filter fun (_, node) => node == .directory).length
  | _ => 1

/-- The letters of the permissions of an entry, with the letter of its kind in front. -/
def Shown.letters (e : Shown) : List Char :=
  let kind := match e.node with
    | .directory => 'd'
    | .file .. => if Shell.Machine.isDevice e.location then 'c' else '-'
    | .link _ => 'l'
  kind :: (modeLetters e.mode).toList

/-- The mark behind the name of an entry that tells its kind. -/
def Shown.mark (all : Bool) (e : Shown) : String :=
  match e.node with
  | .directory => "/"
  | .link _ => if all then "@" else ""
  | .file _ mode => if all && FileSystem.isExecutable mode then "*" else ""

/-! ### Options of lists -/

/-- The options of `ls`. -/
def lsOptions : List Known :=
  [flag 'a' "all", flag 'A' "almost-all", flag '1' "", flag 'l' "", flag 'd' "directory",
   flag 'r' "reverse", flag 'R' "recursive", flag 'F' "", flag 'p' "", flag 't' "", flag 'S' "",
   flag 's' "size", flag 'i' "inode", flag 'h' "human-readable", flag 'n' "numeric-uid-gid",
   flag 'g' "", flag 'o' "", flag 'G' "no-group", flag 'c' "", flag 'u' "", flag 'U' "",
   flag 'f' "", flag 'x' "", flag 'C' "", flag 'm' "", flag 'Q' "quote-name", flag 'q' "",
   flag 'b' "escape", flag 'k' "kibibytes", flag 'L' "dereference", flag 'H' "", flag 'N' "literal",
   flag 'X' "", flag 'v' "", flag 'B' "ignore-backups", taking 'I' "ignore", taking 'w' "width",
   taking 'T' "tabsize", flag 'D' "dired", flag 'Z' "context", longPerhaps "color",
   longPerhaps "classify", longTaking "indicator-style", longTaking "sort", longTaking "format",
   longTaking "hide", longTaking "time", longTaking "time-style", longFlag "full-time",
   longTaking "quoting-style", longFlag "group-directories-first", longFlag "author",
   longFlag "file-type", longFlag "si", longTaking "block-size", longFlag "zero",
   longFlag "show-control-chars", longFlag "hide-control-chars",
   longFlag "dereference-command-line", longPerhaps "hyperlink"]

/-- How the names of a list are laid out. -/
inductive ListForm where
  | single
  | long
  | columns (downwards : Bool)
  | commas

/-- How a list is laid out. -/
def listForm (o : Options) (default : ListForm) : ListForm :=
  match o.last? ["l", "n", "g", "o", "C", "x", "m", "1", "format", "full-time"] with
  | some "l" | some "n" | some "g" | some "o" | some "full-time" => .long
  | some "C" => .columns true
  | some "x" => .columns false
  | some "m" => .commas
  | some "format" =>
    match o.value? "format" with
    | some "long" | some "verbose" => .long
    | some "commas" => .commas
    | some "vertical" => .columns true
    | some "across" | some "horizontal" => .columns false
    | _ => .single
  | some _ => if o.has "l" || o.has "n" || o.has "g" || o.has "o" then .long else .single
  | none => default

/-- A name as it is shown. -/
def listedName (o : Options) (name : String) : String :=
  let style := (o.value? "quoting-style").getD ""
  if o.has "Q" || style == "c" then
    "\"" ++ String.ofList (name.toList.flatMap fun c =>
      if c == '"' || c == '\\' then ['\\', c] else if isPrintable c then [c] else '\\' :: escapeOf c)
      ++ "\""
  else if o.has "b" || style == "escape" then
    String.ofList (name.toList.flatMap fun c =>
      if c == ' ' || c == '\\' then ['\\', c] else if isPrintable c then [c] else '\\' :: escapeOf c)
  else if o.has "q" then name.map fun c => if isPrintable c then c else '?'
  else name

/-- The mark that a list puts behind a name. -/
def listedMark (o : Options) (e : Shown) : String :=
  let style := (o.value? "indicator-style").getD ""
  if o.has "F" || o.has "classify" || style == "classify" then e.mark true
  else if o.has "file-type" || style == "file-type" then
    match e.node with
    | .file .. => ""
    | _ => e.mark true
  else if o.has "p" || style == "slash" then e.mark false
  else ""

/-! ### Order -/

/-- What is behind the last point of a name. -/
def extensionOf (name : String) : List Char :=
  let reversed := name.toList.reverse
  let back := reversed.takeWhile (· != '.')
  if back.length = reversed.length then [] else back.reverse

/-- The order of two names of which parts that are numbers count as numbers; `fuel` bounds their
length. -/
def versionOrder : (fuel : Nat) → List Char → List Char → Ordering
  | 0, _, _ => .eq
  | _, [], [] => .eq
  | _, [], _ => .lt
  | _, _, [] => .gt
  | fuel + 1, a :: as, b :: bs =>
    if a.isDigit && b.isDigit then
      let m := (a :: as).takeWhile Char.isDigit
      let n := (b :: bs).takeWhile Char.isDigit
      match compare ((String.ofList m).toNat?.getD 0) ((String.ofList n).toNat?.getD 0) with
      | .eq => versionOrder fuel ((a :: as).drop m.length) ((b :: bs).drop n.length)
      | order => order
    else if a == b then versionOrder fuel as bs
    else compare a.toNat b.toNat

/-- Entries in the order in which they are shown. -/
def inListOrder (o : Options) (s : Session) (entries : List Shown) : List Shown :=
  let names (a b : Shown) : Bool := compareUnits a.name.toList b.name.toList != .gt
  let by' (key : Shown → Int) : List Shown :=
    (entries.mergeSort names).mergeSort fun a b => key a ≤ key b
  let kind := match o.last? ["t", "S", "U", "f", "X", "v", "sort"] with
    | some "sort" =>
      match o.value? "sort" with
      | some "size" => "S"
      | some "time" => "t"
      | some "none" => "U"
      | some "extension" => "X"
      | some "version" => "v"
      | _ => ""
    | some key => key
    | none => ""
  let sorted := match kind with
    | "t" => by' fun e => -(s.machine.stampOf e.location)
    | "S" => by' fun e => -(e.size : Int)
    | "U" | "f" => entries
    | "X" => (entries.mergeSort names).mergeSort fun a b =>
        compareUnits (extensionOf a.name) (extensionOf b.name) != .gt
    | "v" => entries.mergeSort fun a b =>
        versionOrder (a.name.length + 1) a.name.toList b.name.toList != .gt
    | _ => entries.mergeSort names
  let sorted := if o.has "r" && kind != "U" && kind != "f" then sorted.reverse else sorted
  if o.has "group-directories-first" then
    let (directories, others) := sorted.partition fun e => e.node == .directory
    directories ++ others
  else sorted

/-! ### Layout -/

/-- The size of an entry in a short form. -/
def shortSize (n : Nat) : String :=
  let units := ["K", "M", "G", "T", "P", "E"]
  let rec go : List String → (scale : Nat) → String
    | [], _ => toString n
    | unit :: rest, scale =>
      let whole := (n + scale - 1) / scale
      let tenths := (n * 10 + scale - 1) / scale
      if tenths < 100 then s!"{tenths / 10}.{tenths % 10}{unit}"
      else if whole < 1024 then s!"{whole}{unit}"
      else go rest (scale * 1024)
  if n < 1024 then toString n else go units 1024

/-- A text with blanks in front of it up to a width. -/
def rightAligned (width : Nat) (text : String) : String :=
  String.ofList (List.replicate (width - text.length) ' ') ++ text

/-- The day that is told of every entry. -/
def dayText (o : Options) : String :=
  if o.has "full-time" || o.value? "time-style" == some "full-iso" then
    "1970-01-01 00:00:00.000000000 +0000"
  else if o.value? "time-style" == some "long-iso" then "1970-01-01 00:00"
  else "Jan  1  1970"

/-- The lines of entries with everything about them. -/
def longLines (o : Options) (fs : FileSystem) (entries : List Shown) : List String :=
  let sizeOf (e : Shown) : String := if o.has "h" then shortSize e.size else toString e.size
  let user := if o.has "n" then "0" else "root"
  let owners := (if o.has "g" then "" else user ++ " ") ++
    (if o.has "o" || o.has "G" then "" else user ++ " ")
  let widthOf (f : Shown → String) : Nat := entries.foldl (fun n e => max n (f e).length) 0
  let linkWidth := widthOf fun e => toString (e.links fs)
  let sizeWidth := widthOf sizeOf
  entries.map fun e =>
    let behind := match e.node with
      | .link target => " -> " ++ Shell.unitsOfPath target
      | _ => listedMark o e
    let links := rightAligned linkWidth (toString (e.links fs))
    let size := rightAligned sizeWidth (sizeOf e)
    let letters := String.ofList e.letters
    let name := listedName o e.name
    s!"{letters} {links} {owners}{size} {dayText o} {name}{behind}"

/-- Blanks, and tabs where they reach, from one column to another; `fuel` bounds their number. -/
def indent : (fuel : Nat) → (start stop : Nat) → List Char
  | 0, _, _ => []
  | fuel + 1, start, stop =>
    if stop ≤ start then []
    else if (start + 1) / 8 < stop / 8 then '\t' :: indent fuel (start / 8 * 8 + 8) stop
    else ' ' :: indent fuel (start + 1) stop

/-- The widths of columns that names are put into. -/
def columnWidths (downwards : Bool) (count : Nat) (names : List String) : List Nat :=
  let rows := (names.length + count - 1) / count
  (List.range count).map fun column =>
    names.zipIdx.foldl (fun n (name, i) =>
      let place := if downwards then i / rows else i % count
      if place = column then max n (name.length + (if column + 1 = count then 0 else 2)) else n) 0

/-- Names in as many columns as fit into a line. -/
def inColumns (downwards : Bool) (names : List String) : List Char :=
  let fits (count : Nat) : Bool :=
    (columnWidths downwards count names).foldl (· + ·) 0 < 80
  let count := (((List.range (min 27 names.length)).reverse.map (· + 1)).find? fits).getD 1
  let rows := (names.length + count - 1) / count
  let widths := columnWidths downwards count names
  (List.range rows).flatMap fun row =>
    let placed := (List.range count).filterMap fun column =>
      let place := if downwards then column * rows + row else row * count + column
      (names[place]?).map fun name => (name, (widths.take column).foldl (· + ·) 0)
    let (line, _) := placed.foldl (fun (line, stop) (name, start) =>
      (line ++ indent 200 stop start ++ name.toList, start + name.length)) (([] : List Char), 0)
    line ++ ['\n']

/-- A list of entries. -/
def listed (o : Options) (fs : FileSystem) (entries : List Shown) : List Char :=
  let blocks (e : Shown) : String :=
    if o.has "h" then (if e.blocks = 0 then "0" else shortSize (e.blocks * 1024))
    else toString e.blocks
  let width := entries.foldl (fun n e => max n (blocks e).length) 0
  let front (e : Shown) : String :=
    (if o.has "i" then "1 " else "") ++
      (if o.has "s" then rightAligned width (blocks e) ++ " " else "")
  let names := entries.map fun e => front e ++ listedName o e.name ++ listedMark o e
  match listForm o .single with
  | .single => names.flatMap fun name => name.toList ++ ['\n']
  | .long => (entries.zip (longLines o fs entries)).flatMap fun (e, line) =>
      (front e ++ line).toList ++ ['\n']
  | .columns downwards => if names.isEmpty then [] else inColumns downwards names
  | .commas => if names.isEmpty then [] else (", ".intercalate names).toList ++ ['\n']

/-! ### Directories -/

/-- The entries of a directory that are shown. -/
def shownChildren (o : Options) (fs : FileSystem) (directory : Location) : List Shown :=
  let hidden (name : String) : Bool :=
    name.startsWith "." && !o.has "a" && !o.has "A" && !o.has "f"
  let ignored (name : String) : Bool :=
    (o.values "I" ++ o.values "hide").any (fun p => Shell.fitsPattern p name) ||
      (o.has "B" && name.endsWith "~")
  let inside := ((fs.children directory).map fun (name, node) =>
    (⟨Text.Units.ofBytes name, directory ++ [name], node⟩ : Shown)).filter fun e =>
      !hidden e.name && !ignored e.name
  let own : List Shown := if o.has "a" || o.has "f" then
      [⟨".", directory, .directory⟩, ⟨"..", directory.dropLast, .directory⟩]
    else []
  own ++ inside

/-- The list of a directory and, if that is asked for, of those inside; `fuel` bounds how deep. -/
def listDirectory (o : Options) (titled : Bool) : (fuel : Nat) → (first : Bool) → String →
    Location → Session → Session
  | 0, _, _, _, s => s
  | fuel + 1, first, path, location, s =>
    let entries := inListOrder o s (shownChildren o s.files location)
    let title := if titled then (if first then "" else "\n") ++ listedName o path ++ ":\n" else ""
    let isLong := match listForm o .single with
      | .long => true
      | _ => o.has "s"
    let blocks := entries.foldl (fun n e => n + e.blocks) 0
    let total := if o.has "h" && blocks != 0 then shortSize (blocks * 1024) else toString blocks
    let sum := if isLong then s!"total {total}\n" else ""
    let s := put ((title ++ sum).toList ++ listed o s.files entries) s
    if !o.has "R" then s
    else entries.foldl (fun s e =>
      if e.node == .directory && e.name != "." && e.name != ".." then
        let inner := if path.endsWith "/" then path ++ e.name else path ++ "/" ++ e.name
        listDirectory o titled fuel false inner e.location s
      else s) s

/-- What an operand names: an entry of its own, or a directory to be listed. -/
def operandEntry (o : Options) (name : String) (s : Session) : Except IoFault Shown := do
  let keepsLinks := (o.has "d" || o.has "F" || match listForm o .single with
    | .long => true
    | _ => false) && !o.has "L" && !o.has "H"
  let path := pathOf name
  if keepsLinks then
    let (location, node) ← s.files.linkStatus path
    return ⟨name, location, node⟩
  else match s.files.status path with
    | .ok (location, node) => return ⟨name, location, node⟩
    | .error fault =>
      if o.has "L" then throw fault
      let (location, node) ← s.files.linkStatus path
      return ⟨name, location, node⟩

/-- How deep directories may lie in one another. -/
def listDepth : Nat := 1000

/-- Lists entries. The directory lists may be laid out in columns by default (`dir`, `vdir`). -/
def lsAs (more : List (String × String)) : Tool := withOptions lsOptions 2 fun o c s =>
  let o := { o with given := more ++ o.given }
  let operands := if o.operands.isEmpty then ["."] else o.operands
  let (found, s) := operands.foldl (fun (found, s) name =>
    match operandEntry o name s with
    | .ok entry => (found ++ [entry], s)
    | .error fault =>
      (found, (s.complain s!"{c.name}: cannot access {quotedName name}: {fault.reason}").withStatus
        2)) (([] : List Shown), s)
  let (directories, others) := found.partition fun e => e.node == .directory && !o.has "d"
  let s := put (listed o s.files (inListOrder o s others)) s
  let titled := 1 < operands.length || o.has "R"
  let directories := inListOrder o s directories
  (directories.foldl (fun (first, s) e =>
    (false, listDirectory o titled listDepth first e.name e.location s)) (others.isEmpty, s)).2

/-- Lists entries. -/
def ls : Tool := lsAs []

/-! ### Single entries -/

/-- The kind of an entry in words. -/
def Shown.kind (e : Shown) : String :=
  match e.node with
  | .directory => "directory"
  | .file content _ =>
    if Shell.Machine.isDevice e.location then "character special file"
    else if content.isEmpty then "regular empty file" else "regular file"
  | .link _ => "symbolic link"

/-- What a letter of a format stands for. -/
def statValue (fs : FileSystem) (e : Shown) (letter : Char) : String :=
  let bits := match e.node with
    | .directory => 0o40000
    | .file .. => 0o100000
    | .link _ => 0o120000
  match letter with
  | 'n' => e.name
  | 'N' =>
    match e.node with
    | .link target => quotedName e.name ++ " -> " ++ quotedName (Shell.unitsOfPath target)
    | _ => quotedName e.name
  | 's' => toString e.size
  | 'F' => e.kind
  | 'a' => String.ofList (Nat.toDigits 8 e.mode)
  | 'A' => String.ofList e.letters
  | 'f' => String.ofList (Nat.toDigits 16 (bits + e.mode))
  | 'U' | 'G' => "root"
  | 'u' | 'g' | 't' | 'T' | 'W' | 'w' => "0"
  | 'h' => toString (e.links fs)
  | 'b' => toString (e.blocks * 2)
  | 'B' => "512"
  | 'o' => "4096"
  | 'i' | 'd' => "1"
  | 'X' | 'Y' | 'Z' => "0"
  | 'x' | 'y' | 'z' => "1970-01-01 00:00:00.000000000 +0000"
  | 'm' => "/"
  | _ => "?"

/-- A format filled in; `fuel` bounds its length. -/
def statText (fs : FileSystem) (e : Shown) (escapes : Bool) : (fuel : Nat) → List Char → List Char
  | 0, _ => []
  | _, [] => []
  | fuel + 1, '%' :: '%' :: cs => '%' :: statText fs e escapes fuel cs
  | fuel + 1, '%' :: cs =>
    let flags := cs.takeWhile fun c => "-+ 0#".toList.contains c
    let digits := (cs.drop flags.length).takeWhile Char.isDigit
    let width := (String.ofList digits).toNat?.getD 0
    match cs.drop (flags.length + digits.length) with
    | letter :: rest =>
      let text := statValue fs e letter
      let fill := List.replicate (width - text.length) (if flags.contains '0' then '0' else ' ')
      (if flags.contains '-' then text.toList ++ List.replicate (width - text.length) ' '
        else fill ++ text.toList) ++ statText fs e escapes fuel rest
    | [] => ['%']
  | fuel + 1, '\\' :: 'n' :: cs =>
    (if escapes then ['\n'] else ['\\', 'n']) ++ statText fs e escapes fuel cs
  | fuel + 1, '\\' :: 't' :: cs =>
    (if escapes then ['\t'] else ['\\', 't']) ++ statText fs e escapes fuel cs
  | fuel + 1, c :: cs => c :: statText fs e escapes fuel cs

/-- What is told of an entry when no format is given. -/
def statFormat : String :=
  "  File: %N\n  Size: %-10s\tBlocks: %-10b IO Block: %-6o %F\nDevice: 0,0\tInode: %-10i  " ++
    "Links: %h\nAccess: (%04a/%A)  Uid: (    0/    root)   Gid: (    0/    root)\n" ++
    "Access: %x\nModify: %y\nChange: %z\n Birth: %w\n"

/-- Tells what is known of entries. -/
def stat : Tool :=
  withOptions [taking 'c' "format", longTaking "printf", flag 'L' "dereference",
    flag 'f' "file-system", flag 't' "terse", longTaking "cached"] 1 fun o c s =>
  if o.operands.isEmpty then missingOperand c 1 s
  else o.operands.foldl (fun s name =>
    let found := if o.has "L" then s.files.status (pathOf name)
      else s.files.linkStatus (pathOf name)
    match found with
    | .error fault =>
      complain s s!"{c.name}: cannot statx {quotedName name}: {fault.reason}"
    | .ok (location, node) =>
      let e : Shown := ⟨name, location, node⟩
      let fill (escapes : Bool) (format : String) : List Char :=
        statText s.files e escapes (format.length + 1) format.toList
      match o.last? ["c", "printf"] with
      | some "c" => put (fill false ((o.value? "c").getD "") ++ ['\n']) s
      | some _ => put (fill true ((o.value? "printf").getD "")) s
      | none => put (fill false statFormat) s) s

end IdlBuild.Tool
