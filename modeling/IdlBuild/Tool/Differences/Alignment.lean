/-!
# Which lines of two texts differ

Two rows of lines are laid beside each other so that as few lines as possible are left over. The rows
are halved where the ways from both ends meet; lines that the other row does not have at all are set
aside first. Then every stretch of lines that are left over is moved to the end of the lines that it
might as well stand before.
-/

namespace IdlBuild.Tool.Differences

/-- Two rows of lines, each line by a number that is the same for lines that count as equal. -/
structure Rows where
  left : Array Nat
  right : Array Nat

/-- Which lines of both rows are left over. -/
structure Leftover where
  left : Array Bool
  right : Array Bool
deriving Inhabited

/-- Whether the line at a place is left over; beyond the ends there is none. -/
def isLeft (flags : Array Bool) (place : Int) : Bool :=
  if place < 0 then false else (flags[place.toNat]?).getD false

/-! ### Where two ways meet -/

/-- A part of both rows. -/
structure Part where
  x0 : Nat
  x1 : Nat
  y0 : Nat
  y1 : Nat

/-- How far one has come on each diagonal, from one of the ends. -/
abbrev Reached := List (Int × Int)

/-- How far one has come on a diagonal. -/
def Reached.on (r : Reached) (default diagonal : Int) : Int := (r.lookup diagonal).getD default

/-- Follows equal lines forwards; `fuel` bounds how many. -/
def slideForward (rows : Rows) (p : Part) : (fuel : Nat) → (x y : Int) → Int
  | 0, x, _ => x
  | fuel + 1, x, y =>
    if x < p.x1 && y < p.y1 && rows.left[x.toNat]? == rows.right[y.toNat]? then
      slideForward rows p fuel (x + 1) (y + 1)
    else x

/-- Follows equal lines backwards; `fuel` bounds how many. -/
def slideBack (rows : Rows) (p : Part) : (fuel : Nat) → (x y : Int) → Int
  | 0, x, _ => x
  | fuel + 1, x, y =>
    if (p.x0 : Int) < x && (p.y0 : Int) < y &&
        rows.left[(x - 1).toNat]? == rows.right[(y - 1).toNat]? then
      slideBack rows p fuel (x - 1) (y - 1)
    else x

/-- The diagonals from the highest to the lowest in steps of two. -/
def diagonals (low high : Int) : List Int :=
  if high < low then []
  else (List.range (((high - low) / 2).toNat + 1)).map fun (i : Nat) => high - 2 * (i : Int)

/-- The range of diagonals for one more step. -/
def widened (low high least most : Int) : Int × Int :=
  (if least < low then low - 1 else low + 1, if high < most then high + 1 else high - 1)

/-- One step forwards on all diagonals: where the way from the other end is met, or how far one has
come. -/
def stepForward (rows : Rows) (p : Part) (forward back : Reached) (low high : Int)
    (meets : Int → Bool) : (Option (Int × Int)) × Reached :=
  (diagonals low high).foldl (fun (found, reached) d =>
    if found.isSome then (found, reached)
    else
      let below := forward.on (-1) (d - 1)
      let above := forward.on (-1) (d + 1)
      let x0 := if below < above then above else below + 1
      let x := slideForward rows p (p.x1 + p.y1 + 1) x0 (x0 - d)
      let met := meets d && back.on (p.x1 + p.y1 + 1) d ≤ x
      (if met then some (x, x - d) else none, (d, x) :: reached)) (none, [])

/-- One step backwards on all diagonals. -/
def stepBack (rows : Rows) (p : Part) (forward back : Reached) (low high : Int)
    (meets : Int → Bool) : (Option (Int × Int)) × Reached :=
  let far : Int := p.x1 + p.y1 + 1
  (diagonals low high).foldl (fun (found, reached) d =>
    if found.isSome then (found, reached)
    else
      let below := back.on far (d - 1)
      let above := back.on far (d + 1)
      let x0 := if below < above then below else above - 1
      let x := slideBack rows p (p.x1 + p.y1 + 1) x0 (x0 - d)
      let met := meets d && x ≤ forward.on (-1) d
      (if met then some (x, x - d) else none, (d, x) :: reached)) (none, [])

/-- Where the ways from both ends meet; `fuel` bounds the number of steps. -/
def meetingPlace (rows : Rows) (p : Part) : (fuel : Nat) → (forward back : Reached) →
    (forwardRange backRange : Int × Int) → Int × Int
  | 0, _, _, _, _ => (p.x0, p.y0)
  | fuel + 1, forward, back, (fl, fh), (bl, bh) =>
    let least : Int := (p.x0 : Int) - p.y1
    let most : Int := (p.x1 : Int) - p.y0
    let isOdd := (((p.x0 : Int) - p.y0) - ((p.x1 : Int) - p.y1)) % 2 != 0
    let (fl, fh) := widened fl fh least most
    let (found, forward) := stepForward rows p forward back fl fh fun d =>
      isOdd && bl ≤ d && d ≤ bh
    match found with
    | some place => place
    | none =>
      let (bl, bh) := widened bl bh least most
      let (found, back) := stepBack rows p forward back bl bh fun d =>
        !isOdd && fl ≤ d && d ≤ fh
      match found with
      | some place => place
      | none => meetingPlace rows p fuel forward back (fl, fh) (bl, bh)

/-- Marks the lines of a part that are left over; `fuel` bounds how often it is halved. -/
def mark (rows : Rows) : (fuel : Nat) → Part → Leftover → Leftover
  | 0, _, found => found
  | fuel + 1, p, found =>
    let x0 := (slideForward rows p (p.x1 + 1) p.x0 p.y0).toNat
    let p := { p with x0, y0 := p.y0 + (x0 - p.x0) }
    let x1 := (slideBack rows p (p.x1 + 1) p.x1 p.y1).toNat
    let p := { p with x1, y1 := p.y1 - (p.x1 - x1) }
    let marked (flags : Array Bool) (start stop : Nat) : Array Bool :=
      (List.range (stop - start)).foldl (fun flags i => flags.setIfInBounds (start + i) true) flags
    if p.x0 = p.x1 then { found with right := marked found.right p.y0 p.y1 }
    else if p.y0 = p.y1 then { found with left := marked found.left p.x0 p.x1 }
    else
      let start : Int := (p.x0 : Int) - p.y0
      let stop : Int := (p.x1 : Int) - p.y1
      let (x, y) := meetingPlace rows p (p.x1 + p.y1 + 2) [(start, p.x0)] [(stop, p.x1)]
        (start, start) (stop, stop)
      let found := mark rows fuel { p with x1 := x.toNat, y1 := y.toNat } found
      mark rows fuel { p with x0 := x.toNat, y0 := y.toNat } found

/-! ### Moving what is left over -/

/-- A stretch of lines that are left over: the flags of its row, where it begins and ends, the place
in the other row, and the last end at which lines of the other row are left over too. -/
structure Stretch where
  flags : Array Bool
  start : Int
  stop : Int
  other : Int
  corresponding : Int

/-- Goes on while the flags hold; `fuel` bounds how far. -/
def passing (flags : Array Bool) (step : Int) : (fuel : Nat) → Int → Int
  | 0, place => place
  | fuel + 1, place => if isLeft flags place then passing flags step fuel (place + step) else place

/-- Whether the lines at two places are equal. -/
def sameLine (lines : Array Nat) (a b : Int) : Bool := lines[a.toNat]? == lines[b.toNat]?

/-- A flag at a place. -/
def setFlag (flags : Array Bool) (place : Int) (value : Bool) : Array Bool :=
  flags.setIfInBounds place.toNat value

/-- Moves a stretch back as far as possible; `fuel` bounds how far. -/
def moveBack (lines : Array Nat) (others : Array Bool) : (fuel : Nat) → Stretch → Stretch
  | 0, t => t
  | fuel + 1, t =>
    if 0 < t.start && sameLine lines (t.start - 1) (t.stop - 1) then
      let flags := setFlag (setFlag t.flags (t.start - 1) true) (t.stop - 1) false
      let start := passing flags (-1) flags.size (t.start - 2) + 1
      let other := passing others (-1) others.size (t.other - 1)
      moveBack lines others fuel { t with flags, start, stop := t.stop - 1, other }
    else t

/-- Moves a stretch on as far as possible; `fuel` bounds how far. -/
def moveOn (lines : Array Nat) (others : Array Bool) : (fuel : Nat) → Stretch → Stretch
  | 0, t => t
  | fuel + 1, t =>
    if t.stop < lines.size && sameLine lines t.start t.stop then
      let flags := setFlag (setFlag t.flags t.start false) t.stop true
      let stop := passing flags 1 flags.size (t.stop + 1)
      let other := passing others 1 others.size (t.other + 1)
      let corresponding := if isLeft others (t.other + 1) then stop else t.corresponding
      moveOn lines others fuel
        { flags, start := t.start + 1, stop, other, corresponding }
    else t

/-- Moves a stretch back and on until it does not grow any more; `fuel` bounds how often. -/
def settle (lines : Array Nat) (others : Array Bool) : (fuel : Nat) → Stretch → Stretch
  | 0, t => t
  | fuel + 1, t =>
    let length := t.stop - t.start
    let back := moveBack lines others lines.size t
    let corresponding := if isLeft others (back.other - 1) then back.stop else lines.size
    let moved := moveOn lines others lines.size { back with corresponding }
    if moved.stop - moved.start = length then moved else settle lines others fuel moved

/-- Moves a stretch back to where lines of the other row are left over too; `fuel` bounds how far. -/
def moveToOther (others : Array Bool) : (fuel : Nat) → Stretch → Stretch
  | 0, t => t
  | fuel + 1, t =>
    if t.corresponding < t.stop then
      let flags := setFlag (setFlag t.flags (t.start - 1) true) (t.stop - 1) false
      let other := passing others (-1) others.size (t.other - 1)
      moveToOther others fuel
        { t with flags, start := t.start - 1, stop := t.stop - 1, other }
    else t

/-- Passes over the lines that are not left over; `fuel` bounds their number. -/
def nextStretch (flags others : Array Bool) : (fuel : Nat) → (place other : Int) → Int × Int
  | 0, place, other => (place, other)
  | fuel + 1, place, other =>
    if place < flags.size && !isLeft flags place then
      nextStretch flags others fuel (place + 1) (passing others 1 others.size other + 1)
    else (place, other)

/-- Moves all stretches of a row; `fuel` bounds their number. -/
def moveAll (lines : Array Nat) (others : Array Bool) : (fuel : Nat) → (flags : Array Bool) →
    (place other : Int) → Array Bool
  | 0, flags, _, _ => flags
  | fuel + 1, flags, place, other =>
    let (start, other) := nextStretch flags others (flags.size + 1) place other
    if (flags.size : Int) ≤ start then flags
    else
      let stop := passing flags 1 flags.size start
      let other := passing others 1 others.size other
      let t := settle lines others (lines.size + 1) ⟨flags, start, stop, other, 0⟩
      let t := moveToOther others (lines.size + 1) t
      moveAll lines others fuel t.flags t.stop t.other

/-! ### Whole rows -/

/-- The lines of a row that the other row has as well, with their places. -/
def common (row other : Array Nat) : List (Nat × Nat) :=
  (row.toList.zipIdx).filter fun (line, _) => other.contains line

/-- Flags in which the lines of a row that were looked at have theirs, and all others are left
over. -/
def spread (size : Nat) (kept : List (Nat × Nat)) (flags : Array Bool) : Array Bool :=
  (kept.zipIdx).foldl (fun all ((_, place), i) =>
    all.setIfInBounds place ((flags[i]?).getD true)) (Array.replicate size true)

/-- Which lines of two rows are left over. -/
def leftover (rows : Rows) : Leftover :=
  let left := common rows.left rows.right
  let right := common rows.right rows.left
  let inner : Rows := ⟨(left.map Prod.fst).toArray, (right.map Prod.fst).toArray⟩
  let size := inner.left.size + inner.right.size
  let found := mark inner (size + 1) ⟨0, inner.left.size, 0, inner.right.size⟩
    ⟨Array.replicate inner.left.size false, Array.replicate inner.right.size false⟩
  let onLeft := spread rows.left.size left found.left
  let onRight := spread rows.right.size right found.right
  let onLeft := moveAll rows.left onRight (rows.left.size + 1) onLeft 0 0
  ⟨onLeft, moveAll rows.right onLeft (rows.right.size + 1) onRight 0 0⟩

/-- A place where lines of one row are replaced by lines of the other. -/
structure Change where
  left : Nat
  removed : Nat
  right : Nat
  added : Nat
deriving DecidableEq, Repr

/-- The changes from one row to the other; `fuel` bounds the number of lines. -/
def changesFrom (found : Leftover) : (fuel : Nat) → (x y : Nat) → List Change
  | 0, _, _ => []
  | fuel + 1, x, y =>
    if isLeft found.left x || isLeft found.right y then
      let x1 := (passing found.left 1 found.left.size x).toNat
      let y1 := (passing found.right 1 found.right.size y).toNat
      ⟨x, x1 - x, y, y1 - y⟩ :: changesFrom found fuel x1 y1
    else if x < found.left.size && y < found.right.size then changesFrom found fuel (x + 1) (y + 1)
    else []

/-- The changes from one row to the other. -/
def changes (rows : Rows) : List Change :=
  changesFrom (leftover rows) (2 * (rows.left.size + rows.right.size) + 2) 0 0

end IdlBuild.Tool.Differences
