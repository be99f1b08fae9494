import IdlBuild.Tool.Awk.Value

/-!
# Arrays of programs for records

An array has its elements in lists, one list for each remainder of a number that is computed from
the index. What was asked for last stands first in its list. The order in which a program goes
through an array is the order of the lists. Whole numbers have lists of their own until the array is
gone through, or asked for a text, for the first time.
-/

namespace IdlBuild.Tool.Awk

/-- An element of an array: its index as a text or as a number, or both, and its value. -/
structure Element where
  text : Option (List Char)
  number : Option Int
  value : Value

/-- An array. -/
structure Table where
  elements : Array Element
  /-- The places of the elements by their texts, and by their numbers. -/
  texts : Array (List Nat)
  numbers : Array (List Nat)
  size : Nat
  /-- Whether texts have been asked for. -/
  hasTexts : Bool

namespace Table

/-- How many lists there are at first. -/
def firstLists : Nat := 64

/-- How many elements there may be for each list. -/
def density : Nat := 12

/-- An array without elements. -/
def empty : Table := ⟨#[], Array.replicate firstLists [], Array.replicate firstLists [], 0, false⟩

/-- The number that the list of a text depends on. -/
def mixed (cs : List Char) : Nat :=
  (cs.foldl (fun (h : UInt32) c => (h ^^^ UInt32.ofNat c.toNat) * 16777619) 2166136261).toNat

/-- The text of a whole number. -/
def textOfInt (n : Int) : List Char := (toString n).toList

/-- The list of a text. -/
def textList (t : Table) (cs : List Char) : Nat := mixed cs % t.texts.size

/-- The list of a number. -/
def numberList (t : Table) (n : Int) : Nat := (n % (t.numbers.size : Int)).toNat

/-- Puts a place first in a list. -/
def moved (lists : Array (List Nat)) (list place : Nat) : Array (List Nat) :=
  lists.modify list fun places => place :: places.filter (· != place)

/-- The array in which all elements can be found by their texts. -/
def withTexts (t : Table) : Table :=
  if t.hasTexts then t
  else
    let done := t.numbers.foldl (fun (t : Table) places =>
      places.foldl (fun (t : Table) place =>
        match t.elements[place]? with
        | some element =>
          if element.text.isSome then t
          else
            let text := textOfInt (element.number.getD 0)
            { t with
              elements := t.elements.setIfInBounds place { element with text := some text }
              texts := moved t.texts (t.textList text) place }
        | none => t) t) t
    { done with hasTexts := true }

/-- The array with twice as many lists, if it has become dense. -/
def grown (t : Table) : Table :=
  if t.size ≤ t.texts.size * density then t
  else
    let count := t.texts.size * 2
    let split (lists : Array (List Nat)) (listOf : Nat → Nat) : Array (List Nat) :=
      lists.zipIdx.map (fun (places, i) => places.filter fun p => listOf p == i) ++
        lists.zipIdx.map (fun (places, i) => (places.filter fun p => listOf p != i).reverse)
    let textOf (p : Nat) : Nat := match t.elements[p]? with
      | some e => mixed (e.text.getD []) % count
      | none => 0
    let numberOf (p : Nat) : Nat := match t.elements[p]? with
      | some e => ((e.number.getD 0) % (count : Int)).toNat
      | none => 0
    { t with texts := split t.texts textOf, numbers := split t.numbers numberOf }

/-- Puts a new element into the array. -/
def added (t : Table) (element : Element) : Nat × Table :=
  let place := t.elements.size
  let t := { t with elements := t.elements.push element, size := t.size + 1 }.grown
  let t := match element.text with
    | some cs => { t with texts := moved t.texts (t.textList cs) place }
    | none => t
  let t := match element.number with
    | some n => { t with numbers := moved t.numbers (t.numberList n) place }
    | none => t
  (place, t)

/-- The element of a text. It is made if that is asked for. -/
def ofText (t : Table) (makes : Bool) (cs : List Char) : Option Nat × Table :=
  let t := t.withTexts
  let list := t.textList cs
  let found := ((t.texts[list]?).getD []).find? fun p =>
    (t.elements[p]?).any fun e => e.text == some cs
  match found with
  | some place => (some place, { t with texts := moved t.texts list place })
  | none =>
    if makes then
      let (place, t) := t.added ⟨some cs, none, .unset⟩
      (some place, t)
    else (none, t)

/-- The element of a whole number. -/
def ofNumber (t : Table) (makes : Bool) (n : Int) : Option Nat × Table :=
  let list := t.numberList n
  let found := ((t.numbers[list]?).getD []).find? fun p =>
    (t.elements[p]?).any fun e => e.number == some n
  match found with
  | some place => (some place, { t with numbers := moved t.numbers list place })
  | none =>
    if t.hasTexts then
      match t.ofText makes (textOfInt n) with
      | (some place, t) =>
        (some place, { t with
          elements := t.elements.modify place fun e => { e with number := some n }
          numbers := moved t.numbers (t.numberList n) place })
      | (none, t) => (none, t)
    else if makes then
      let (place, t) := t.added ⟨none, some n, .unset⟩
      (some place, t)
    else (none, t)

/-- The element of a value. -/
def find (t : Table) (makes : Bool) (format : List Char) (index : Value) : Option Nat × Table :=
  match index with
  | .number x =>
    if isWhole x && x.abs < 2147483647.0 then t.ofNumber makes (intOf x)
    else t.ofText makes (numberText format x)
  | _ => t.ofText makes (index.toText format)

/-- The value of an element. -/
def valueAt (t : Table) (place : Nat) : Value :=
  match t.elements[place]? with
  | some e => e.value
  | none => .unset

/-- Gives an element a value. -/
def set (t : Table) (place : Nat) (value : Value) : Table :=
  { t with elements := t.elements.modify place fun e => { e with value } }

/-- Takes an element away. -/
def remove (t : Table) (format : List Char) (index : Value) : Table :=
  match t.find false format index with
  | (some place, t) =>
    let without (lists : Array (List Nat)) : Array (List Nat) :=
      lists.map fun places => places.filter (· != place)
    { t with texts := without t.texts, numbers := without t.numbers, size := t.size - 1 }
  | (none, t) => t

/-- The indices in the order in which a program goes through them. -/
def indices (t : Table) : List (List Char) × Table :=
  let t := t.withTexts
  (t.texts.toList.flatMap fun places => places.filterMap fun p =>
    (t.elements[p]?).bind fun e => e.text, t)

end Table

end IdlBuild.Tool.Awk
