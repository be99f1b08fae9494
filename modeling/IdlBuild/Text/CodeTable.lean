import IdlBuild.Text.Fields

/-!
# Tables of code points

A table is written as items between blanks. An item names a code point, or the first and the last of
several, all of them or every second one, and after a colon the code points that they stand for:
`41-5a:61` says that the code points from 41 to 5a stand for those from 61 on. Numbers are
hexadecimal.
-/

namespace IdlBuild.Text

/-- Some code points, each `step`-th from a first to a last one, and what they stand for. -/
structure CodeEntry where
  first : Nat
  last : Nat
  step : Nat
  target : List Nat
deriving DecidableEq, Repr

namespace CodeEntry

/-- The number that hexadecimal digits write. -/
def number? (digits : List Char) : Option Nat :=
  if digits = [] then none
  else digits.foldlM (fun n c =>
    if '0' ≤ c ∧ c ≤ '9' then some (n * 16 + (c.toNat - 0x30))
    else if 'a' ≤ c ∧ c ≤ 'f' then some (n * 16 + (c.toNat - 0x57))
    else none) 0

/-- The entry that an item writes. -/
def ofItem? (item : List Char) : Option CodeEntry := do
  let (codes, target) := (cutFirst ':' item).getD (item, [])
  let (range, step) := (cutFirst '/' codes).getD (codes, ['1'])
  let (first, last) := (cutFirst '-' range).getD (range, range)
  let target ← if target = [] then some [] else (fields '.' target).mapM number?
  return ⟨← number? first, ← number? last, ← number? step, target⟩

/-- Whether an entry is about a code point. -/
def covers (e : CodeEntry) (n : Nat) : Bool :=
  e.first ≤ n && n ≤ e.last && (n - e.first) % e.step == 0

/-- What a code point of an entry stands for; a single target moves along with the code point. -/
def image (e : CodeEntry) (n : Nat) : List Nat :=
  match e.target with
  | [m] => [m + (n - e.first)]
  | target => target

end CodeEntry

/-- A table of code points. -/
structure CodeTable where
  entries : Array CodeEntry

namespace CodeTable

/-- The table that a text writes. -/
def ofText (text : String) : CodeTable :=
  let plain := text.toList.map fun c => if c = '\n' then ' ' else c
  ⟨((fields ' ' plain).filterMap CodeEntry.ofItem?).toArray⟩

/-- The entry about a code point. -/
def find? (table : CodeTable) (n : Nat) : Option CodeEntry := table.entries.find? (·.covers n)

/-- Whether a table names a code point. -/
def contains (table : CodeTable) (n : Nat) : Bool := table.entries.any (·.covers n)

/-- What a code point stands for. -/
def image? (table : CodeTable) (n : Nat) : Option (List Nat) := (table.find? n).map (·.image n)

end CodeTable

end IdlBuild.Text
