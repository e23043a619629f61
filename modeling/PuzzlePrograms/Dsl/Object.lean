import PuzzlePrograms.Dsl.Grid

/-!
# Objects of a grid

An object is a set of coloured places. `objects` finds the connected ones by flooding from each place
that no earlier object has taken; `partition` groups places by colour; `frontiers` are the lines of one
colour; `occurrences` and the periods compare an object with shifted copies.
-/

namespace PuzzlePrograms.Dsl

open Value

/-! ## 1. Flooding -/

/-- What flooding needs to know about a grid: its cells, its extent, the background if there is one,
    whether all cells of an object have one colour, and where neighbours lie. -/
structure Flood where
  rows : Array (Array Value)
  height : Nat
  width : Nat
  background : Value
  univalued : Bool
  offsets : List (Int × Int)

namespace Flood

def color (f : Flood) (i j : Nat) : Answer Value :=
  match (f.rows.getD i #[])[j]? with
  | some v => .ok v
  | none => .error .outOfRange

def nearby (f : Flood) (i j : Nat) : List (Nat × Nat) :=
  f.offsets.filterMap fun (di, dj) =>
    let a : Int := i + di
    let b : Int := j + dj
    if 0 ≤ a && a < f.height && 0 ≤ b && b < f.width then some (a.toNat, b.toNat) else none

def number (f : Flood) (p : Nat × Nat) : Nat := p.1 * f.width + p.2

/-- One object as it grows: the places taken by any object, the cells of this one, and the places
    to look at next. -/
structure Growth where
  taken : Array Bool
  members : List Value
  front : List (Nat × Nat)

/-- Look at one place: if it belongs to the object of colour `val`, take it and go on to its
    neighbours. -/
def visit (f : Flood) (val : Value) (g : Growth) (p : Nat × Nat) : Answer Growth := do
  let v ← f.color p.1 p.2
  if if f.univalued then val == v else v != f.background then
    let v ← v.asElement
    return { taken := g.taken.setIfInBounds (f.number p) true
             members := .tuple [v, Value.pair p.1 p.2] :: g.members
             front := f.nearby p.1 p.2 ++ g.front }
  else return g

/-- The places of a ring that nothing has taken, each once. -/
def fresh (f : Flood) (taken : Array Bool) (ps : List (Nat × Nat)) : List (Nat × Nat) :=
  (ps.foldl (fun (acc : Array Bool × List (Nat × Nat)) p =>
    let n := f.number p
    if acc.1.getD n true then acc else (acc.1.setIfInBounds n true, p :: acc.2)) (taken, [])).2

/-- In which order the places of a set are met. It may change while places are taken. -/
abbrev Tour := Array Bool → List (Nat × Nat) → List (Nat × Nat)

/-- From row to row. -/
def rowwise : Tour := fun _ ps => ps.mergeSort fun a b => a.1 < b.1 || a.1 == b.1 && a.2 ≤ b.2

/-- Grow an object, one ring of places at a time. Each ring takes a place or is the last, so as many
    rings as there are places are enough; a flood that is not over then is `endless`. -/
def grow (f : Flood) (tour : Tour) (val : Value) :
    Nat → Array Bool → List Value → List (Nat × Nat) → Answer (Array Bool × List Value)
  | _, taken, members, [] => .ok (taken, members)
  | 0, _, _, _ :: _ => .error .endless
  | fuel + 1, taken, members, front => do
    let g ← front.foldlM (f.visit val) { taken, members, front := [] }
    grow f tour val fuel g.taken g.members (tour g.taken (f.fresh g.taken g.front))

def collect (f : Flood) (tour : Tour) : List (Nat × Nat) → Array Bool → List Value → Answer (List Value)
  | [], _, objs => .ok objs
  | p :: ps, taken, objs => do
    if taken.getD (f.number p) false then collect f tour ps taken objs
    else
      let val ← f.color p.1 p.2
      if val == f.background then collect f tour ps taken objs
      else
        let val ← val.asElement
        let start : Value := .tuple [val, Value.pair p.1 p.2]
        let (taken, members) ← f.grow tour val (f.height * f.width) taken [start] [p]
        collect f tour ps taken (.fset (SortedSet.ofList members.reverse) :: objs)

end Flood

def objects (grid univalued diagonal withoutBg : Value) (arrange : Arrangement := SortedSet.ofList)
    (tour : Flood.Tour := Flood.rowwise) : Answer Value := do
  let background ← if withoutBg.truthy then mostcolor grid arrange else pure .nothing
  let (h, w) ← extent grid
  let rows ← (← grid.elements).mapM fun r => do return (← r.elements).toArray
  let direct := [(-1, 0), (1, 0), (0, -1), (0, 1)]
  let oblique := [(-1, -1), (-1, 1), (1, -1), (1, 1)]
  let f : Flood :=
    { rows := rows.toArray, height := h, width := w, background
      univalued := univalued.truthy
      offsets := if diagonal.truthy then direct ++ oblique else direct }
  let places := (List.range h).flatMap fun i => (List.range w).map fun j => (i, j)
  let unvisited := Array.replicate (h * w) false
  let objs ← f.collect tour (tour unvisited places) unvisited []
  return .fset (SortedSet.ofList objs.reverse)

/-! ## 2. Grouping by colour -/

def groups (grid : Value) (values : List Value) : Answer Value := do
  let cs ← cells grid
  fsetOf (← values.mapM fun value =>
    fsetOf (cs.filterMap fun (v, i, j) =>
      if v == value then some (.tuple [v, Value.pair i j]) else none))

def partition (grid : Value) : Answer Value := do
  groups grid (← (← palette grid).elements)

def fgpartition (grid : Value) (arrange : Arrangement := SortedSet.ofList) : Answer Value := do
  let values ← (← palette grid).elements
  groups grid (SortedSet.erase values (← mostcolor grid arrange))

/-! ## 3. Lines of one colour -/

def frontiers (grid : Value) : Answer Value := do
  let (h, w) ← extent grid
  let rows ← uniformRows grid
  let cols ← uniformColumns grid h w
  let cell (i j : Nat) : Answer Value := do
    return .tuple [← cellAt grid (.int i) (.int j), Value.pair i j]
  let hs ← rows.mapM fun i => do fsetOf (← (List.range w).mapM fun j => cell i j)
  let vs ← cols.mapM fun j => do fsetOf (← (List.range h).mapM fun i => cell i j)
  (← fsetOf hs).or (← fsetOf vs)

/-! ## 4. Copies -/

def occursAt (grid : Value) (h w : Nat) (obj : List (Value × Value × Value)) (i j : Value) : Answer Bool := do
  let rec go : List (Value × Value × Value) → Answer Bool
    | [] => .ok true
    | (v, a, b) :: rest => do
      let a ← a.add i
      let b ← b.add j
      if ← isInside h w a b then
        if (← cellAt grid a b) != v then return false else go rest
      else return false
  go obj

def occurrences (grid obj : Value) : Answer Value := do
  let normed ← normalize obj
  let (h, w) ← extent grid
  if h == 0 || w == 0 then return .fset []
  let grid : Value := .tuple (← (← grid.elements).mapM fun r => do return .tuple (← r.elements))
  let parts ← (← (← shift normed (Value.pair 0 0)).elements).mapM Value.cell
  let places := (rangeList 0 h 1).flatMap fun i => (rangeList 0 w 1).map fun j => (i, j)
  let found ← places.filterM fun (i, j) => occursAt grid h w parts i j
  return .fset (found.map fun (i, j) => .tuple [i, j])

def leastShift (normed : Value) (step : Int → Value) (stays : Value → Value → Answer Bool)
    (n : Nat) : List Nat → Answer Value
  | [] => .ok (.int n)
  | p :: ps => do
    let moved ← (← shift normed (step p)).elements
    let kept ← moved.filterM fun e => do
      let (_, i, j) ← e.cell
      stays i j
    if SortedSet.isSubset kept (normed.set?.getD []) then return .int p
    else leastShift normed step stays n ps

def hperiod (obj : Value) : Answer Value := do
  let normed ← normalize obj
  match ← width normed with
  | .int w =>
    leastShift normed (fun p => Value.pair 0 (-p)) (fun _ j => related .ge j 0) w.toNat ((List.range w.toNat).drop 1)
  | v => return v

def vperiod (obj : Value) : Answer Value := do
  let normed ← normalize obj
  match ← height normed with
  | .int h =>
    leastShift normed (fun p => Value.pair (-p) 0) (fun i _ => related .ge i 0) h.toNat ((List.range h.toNat).drop 1)
  | v => return v

end PuzzlePrograms.Dsl
