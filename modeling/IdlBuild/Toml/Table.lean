import IdlBuild.Toml.Value

/-!
# Tables under construction

A document defines its tables piece by piece, under headers and through dotted keys, and no key
twice. A table remembers how it came to be, for that decides what may still be added to it: one
named by a header, or implied by a longer header, may be descended into by later headers; one made
by a dotted key may be extended by dotted keys, which may also pass through an implied table or the
last of repeated tables to a table of their own; a value, inline tables and arrays included, is
complete.
-/

namespace IdlBuild.Toml

/-- How a table came to be. -/
inductive Origin where
  | header
  | implied
  | dotted
deriving DecidableEq, Repr

/-- What stands at a key while a document is read. -/
inductive Entry where
  | value (value : Value)
  | table (origin : Origin) (entries : List (String × Entry))
  /-- The tables of repeated headers, the last of them first. -/
  | tables (elements : List (List (String × Entry)))

/-- The entries of a table. -/
abbrev Entries := List (String × Entry)

/-- The entry at a key. -/
def entryAt? (key : String) (entries : Entries) : Option Entry :=
  (entries.find? (·.1 == key)).map Prod.snd

/-- The entries with another one at a key. -/
def setEntry (key : String) (entry : Entry) (entries : Entries) : Entries :=
  if entries.any (·.1 == key) then entries.map fun e => if e.1 == key then (key, entry) else e
  else entries ++ [(key, entry)]

/-! ### Keys -/

/-- Defines a value under a dotted key. -/
def define : (key : List String) → Value → Entries → Option Entries
  | [], _, _ => none
  | [key], v, entries =>
    match entryAt? key entries with
    | some _ => none
    | none => some (setEntry key (.value v) entries)
  | key :: next :: rest, v, entries =>
    match entryAt? key entries with
    | none => do
      let inner ← define (next :: rest) v []
      return setEntry key (.table .dotted inner) entries
    | some (.table origin inside) =>
      if origin = .dotted ∨ (origin = .implied ∧ rest ≠ []) then do
        let inner ← define (next :: rest) v inside
        return setEntry key (.table origin inner) entries
      else none
    | some (.tables (last :: before)) =>
      if rest = [] then none
      else do
        let inner ← define (next :: rest) v last
        return setEntry key (.tables (inner :: before)) entries
    | some _ => none

/-! ### Headers -/

/-- Changes the entries of the table that a header opened last. -/
def atHeader (change : Entries → Option Entries) : (header : List String) → Entries → Option Entries
  | [], entries => change entries
  | key :: rest, entries =>
    match entryAt? key entries with
    | some (.table origin inside) => do
      let inner ← atHeader change rest inside
      return setEntry key (.table origin inner) entries
    | some (.tables (last :: before)) => do
      let inner ← atHeader change rest last
      return setEntry key (.tables (inner :: before)) entries
    | _ => none

/-- Opens the table of a header. -/
def openTable : (header : List String) → Entries → Option Entries
  | [], _ => none
  | [key], entries =>
    match entryAt? key entries with
    | none => some (setEntry key (.table .header []) entries)
    | some (.table .implied inside) => some (setEntry key (.table .header inside) entries)
    | some _ => none
  | key :: next :: rest, entries =>
    match entryAt? key entries with
    | none => do
      let inner ← openTable (next :: rest) []
      return setEntry key (.table .implied inner) entries
    | some (.table origin inside) => do
      let inner ← openTable (next :: rest) inside
      return setEntry key (.table origin inner) entries
    | some (.tables (last :: before)) => do
      let inner ← openTable (next :: rest) last
      return setEntry key (.tables (inner :: before)) entries
    | some _ => none

/-- Opens one more table of a repeated header. -/
def openElement : (header : List String) → Entries → Option Entries
  | [], _ => none
  | [key], entries =>
    match entryAt? key entries with
    | none => some (setEntry key (.tables [[]]) entries)
    | some (.tables elements) => some (setEntry key (.tables ([] :: elements)) entries)
    | some _ => none
  | key :: next :: rest, entries =>
    match entryAt? key entries with
    | none => do
      let inner ← openElement (next :: rest) []
      return setEntry key (.table .implied inner) entries
    | some (.table origin inside) => do
      let inner ← openElement (next :: rest) inside
      return setEntry key (.table origin inner) entries
    | some (.tables (last :: before)) => do
      let inner ← openElement (next :: rest) last
      return setEntry key (.tables (inner :: before)) entries
    | some _ => none

/-! ### Finished tables -/

mutual

/-- The value of an entry. -/
def Entry.toValue : Entry → Value
  | .value value => value
  | .table _ entries => .table (entriesToValues entries)
  | .tables elements => .array (elementsToValues elements).reverse

/-- The values of the entries of a table. -/
def entriesToValues : List (String × Entry) → List (String × Value)
  | [] => []
  | (key, entry) :: rest => (key, entry.toValue) :: entriesToValues rest

/-- The values of repeated tables. -/
def elementsToValues : List (List (String × Entry)) → List Value
  | [] => []
  | entries :: rest => .table (entriesToValues entries) :: elementsToValues rest

end

end IdlBuild.Toml
