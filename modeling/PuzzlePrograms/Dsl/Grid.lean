import PuzzlePrograms.Dsl.Patch
import PuzzlePrograms.Value.Slots

/-!
# Grids

A grid is a tuple of rows, each a tuple of colours. Turning and mirroring also apply to patches where
the words make sense; painting writes cells that lie inside the grid and passes over the others.
-/

namespace PuzzlePrograms.Dsl

open Value

attribute [local instance] natZero intZero

/-! ## 1. Cells -/

def extent (grid : Value) : Answer (Nat × Nat) := do
  let h ← grid.size
  let w ← (← grid.item 0).size
  return (h, w)

def cellAt (grid i j : Value) : Answer Value := do (← grid.item i).item j

def isInside (h w : Nat) (i j : Value) : Answer Bool := do
  if !(← related .le 0 i) then return false
  if !(← related .lt i (.int h)) then return false
  if !(← related .le 0 j) then return false
  related .lt j (.int w)

def cells (grid : Value) : Answer (List (Value × Int × Int)) := do
  let rows ← (← grid.elements).mapM Value.elements
  return (rows.zipIdx.flatMap fun (r, i) => r.zipIdx.map fun (v, j) => (v, (i : Int), (j : Int)))

def asobject (grid : Value) : Answer Value := do
  fsetOf ((← cells grid).map fun (v, i, j) => .tuple [v, Value.pair i j])

def asindices (grid : Value) : Answer Value := do
  let h ← grid.size
  if h == 0 then return .fset []
  let w ← (← grid.item 0).size
  return .fset ((List.range h).flatMap fun (i : Nat) => (List.range w).map fun (j : Nat) => Value.pair i j)

def ofcolor (grid color : Value) : Answer Value := do
  return .fset ((← cells grid).filterMap fun (v, i, j) =>
    if v == color then some (Value.pair i j) else none)

def toobject (patch grid : Value) : Answer Value := do
  let (h, w) ← extent grid
  fsetOf (← (← coordinates patch).filterMapM fun (i, j) => do
    if ← isInside h w i j then
      return some (.tuple [← cellAt grid i j, .tuple [i, j]])
    else return none)

def index (grid loc : Value) : Answer Value := do
  let (i, j) ← loc.parts2
  let (h, w) ← extent grid
  if ← isInside h w i j then cellAt grid (← loc.item 0) (← loc.item 1) else return .nothing

/-! ## 2. Colours -/

def colors (element : Value) : Answer (List Value) := do
  let xs ← element.elements
  if element.isTuple then return (← xs.mapM Value.elements).flatten
  else xs.mapM fun e => do return (← e.parts2).1

/-- The most or the least frequent colour; of several, the one that is met first. -/
def extremeColor (most : Bool) (element : Value) (arrange : Arrangement) : Answer Value := do
  let vs ← colors element
  byCount most (arrange (← vs.mapM asElement)) vs

def mostcolor (element : Value) (arrange : Arrangement := SortedSet.ofList) : Answer Value :=
  extremeColor true element arrange

def leastcolor (element : Value) (arrange : Arrangement := SortedSet.ofList) : Answer Value :=
  extremeColor false element arrange

def palette (element : Value) : Answer Value := do fsetOf (← colors element)

def numcolors (element : Value) : Answer Value := do
  return .int (← (← palette element).size)

def color (obj : Value) : Answer Value := do (← obj.head).item 0

def colorcount (element value : Value) : Answer Value := do
  let xs ← element.elements
  if element.isTuple then
    let counts ← xs.mapM fun row =>
      match row with
      | .tuple r | .list r => .ok (countIn r value)
      | .str s =>
        match value with
        | .str t =>
          if t == "" then .ok (s.length + 1) else .ok ((s.splitOn t).length - 1)
        | _ => .error .wrongType
      | _ => .error .noAttribute
    return .int counts.sum
  else
    return .int (countIn (← xs.mapM fun e => do return (← e.parts2).1) value)

def colorfilter (objs value : Value) : Answer Value := do
  let xs ← (← objs.elements).filterM fun obj =>
    match color obj with
    | .ok c => .ok (c == value)
    | .error e => .error e.insideElement
  fsetOf xs

def sizefilter (c n : Value) : Answer Value := do
  fsetOf (← (← c.elements).filterM fun x => do return Value.int (← x.size) == n)

def replace (grid replacee replacer : Value) : Answer Value := do
  return .tuple (← (← grid.elements).mapM fun r => do
    return .tuple ((← r.elements).map fun v => if v == replacee then replacer else v))

def switch (grid a b : Value) : Answer Value := do
  let swap (v : Value) : Answer Value := do
    if v != a && v != b then return v
    let _ ← a.asElement
    let _ ← b.asElement
    return if a == b then a else if v == a then b else a
  return .tuple (← (← grid.elements).mapM fun r => do
    return .tuple (← (← r.elements).mapM swap))

/-! ## 3. Painting -/

def writeCell (rows : Array (Array Value)) (i j v : Value) (only : Option Value) : Answer (Array (Array Value)) := do
  match i.int?, j.int? with
  | some i, some j =>
    let row := rows.getD i.toNat #[]
    if h : j.toNat < row.size then
      match only with
      | some bg =>
        if row[j.toNat] == bg then .ok (rows.setIfInBounds i.toNat (row.set j.toNat v)) else .ok rows
      | none => .ok (rows.setIfInBounds i.toNat (row.set j.toNat v))
    else .error .outOfRange
  | _, _ => .error .wrongType

/-- Write coloured places into a grid: those outside are passed over, and with `only` given so are
    those where the grid has another colour. -/
def write (grid : Value) (only : Value → Answer (Option Value)) (places : Answer (List Value))
    (read : Value → Answer (Value × Value × Value)) : Answer Value := do
  let (h, w) ← extent grid
  let bg ← only grid
  let rows ← (← grid.elements).mapM fun r => do return (← r.elements).toArray
  let rows ← (← places).foldlM (fun rows e => do
    let (v, i, j) ← read e
    if ← isInside h w i j then writeCell rows i j v bg else return rows) rows.toArray
  return .tuple (rows.toList.map fun r => .tuple r.toList)

def placesOf (patch : Value) : Answer (List Value) := do (← toindices patch).elements

def inColor (v e : Value) : Answer (Value × Value × Value) := do
  let (i, j) ← e.parts2
  return (v, i, j)

def fill (grid v patch : Value) : Answer Value := write grid (fun _ => .ok none) (placesOf patch) (inColor v)

def paint (grid obj : Value) : Answer Value := write grid (fun _ => .ok none) obj.elements Value.cell

def underfill (grid v patch : Value) (arrange : Arrangement := SortedSet.ofList) : Answer Value :=
  write grid (fun g => do return some (← mostcolor g arrange)) (placesOf patch) (inColor v)

def underpaint (grid obj : Value) (arrange : Arrangement := SortedSet.ofList) : Answer Value :=
  write grid (fun g => do return some (← mostcolor g arrange)) obj.elements Value.cell

def cover (grid patch : Value) (arrange : Arrangement := SortedSet.ofList) : Answer Value := do
  let bg ← mostcolor grid arrange
  fill grid bg (← toindices patch)

def move (grid obj offset : Value) (arrange : Arrangement := SortedSet.ofList) : Answer Value := do
  let g ← cover grid obj arrange
  paint g (← shift obj offset)

def canvas (v dims : Value) : Answer Value := do
  let h ← (← dims.item 0).integer
  if h ≤ 0 then return .tuple []
  let w ← (← dims.item 1).integer
  return .tuple (List.replicate h.toNat (.tuple (List.replicate w.toNat v)))

/-! ## 4. Turning and mirroring -/

def rowsOf (grid : Value) : Answer (List (List Value)) := do
  (← grid.elements).mapM Value.elements

def columns (grid : Value) : Answer (List Value) := do
  return (transpose (← rowsOf grid)).map .tuple

def rot90 (grid : Value) : Answer Value := do
  return .tuple (← columns (← grid.reversed))

def backwards (row : Value) : Answer Value := do
  return .tuple (← (← row.reversed).elements)

def rot180 (grid : Value) : Answer Value := do
  return .tuple (← (← (← grid.reversed).elements).mapM backwards)

def rot270 (grid : Value) : Answer Value := do
  return .tuple (← (← columns (← grid.reversed)).mapM backwards).reverse

def mirrorPatch (part : Value) (f : Value → Value → Value → Answer (Value × Value)) (piece : Value) : Answer Value := do
  let d ← (← (← ulcorner piece).item part).add (← (← lrcorner piece).item part)
  mapPlaces (f d) piece

def hmirror (piece : Value) : Answer Value :=
  if piece.isTuple then piece.reversed
  else mirrorPatch 0 (fun d i j => do return (← d.sub i, j)) piece

def vmirror (piece : Value) : Answer Value := do
  if piece.isTuple then return .tuple (← (← piece.elements).mapM Value.reversed)
  else mirrorPatch 1 (fun d i j => do return (i, ← d.sub j)) piece

def dmirror (piece : Value) : Answer Value := do
  if piece.isTuple then return .tuple (← columns piece)
  else
    let (a, b) ← (← ulcorner piece).parts2
    mapPlaces (fun i j => do
      return (← (← j.sub b).add a, ← (← i.sub a).add b)) piece

def cmirror (piece : Value) : Answer Value := do
  if piece.isTuple then
    let rows ← (← (← piece.reversed).elements).mapM Value.reversed
    return .tuple (← columns (.tuple rows))
  else vmirror (← dmirror (← vmirror piece))

/-! ## 5. Parts of grids -/

def crop (grid start dims : Value) : Answer Value := do
  let i ← start.item 0
  let rows ← grid.slice i (← (← start.item 0).add (← dims.item 0)) .nothing
  return .tuple (← (← rows.elements).mapM fun r => do
    let j ← start.item 1
    r.slice j (← (← start.item 1).add (← dims.item 1)) .nothing)

def subgrid (patch grid : Value) : Answer Value := do
  let corner ← ulcorner patch
  crop grid corner (← shape patch)

def trim (grid : Value) : Answer Value := do
  let rows ← grid.slice 1 (.int (-1)) .nothing
  return .tuple (← (← rows.elements).mapM fun r => r.slice 1 (.int (-1)) .nothing)

def tophalf (grid : Value) : Answer Value := do
  grid.slice .nothing (.int ((← grid.size) / 2 : Nat)) .nothing

def bottomhalf (grid : Value) : Answer Value := do
  let n ← grid.size
  grid.slice (.int (n / 2 + n % 2 : Nat)) .nothing .nothing

def lefthalf (grid : Value) : Answer Value := do rot270 (← tophalf (← rot90 grid))

def righthalf (grid : Value) : Answer Value := do rot270 (← bottomhalf (← rot90 grid))

def hsplit (grid n : Value) : Answer Value := do
  let (h, len) ← extent grid
  let w ← (Value.int len).floorDiv n
  let offset : Value := .bool ((← (Value.int len).mod n) != 0)
  return .tuple (← (← span 0 n).mapM fun i => do
    let j ← (← w.mul i).add (← i.mul offset)
    crop grid (.tuple [0, j]) (.tuple [.int h, w]))

def vsplit (grid n : Value) : Answer Value := do
  let len ← grid.size
  let h ← (Value.int len).floorDiv n
  let w ← (← grid.item 0).size
  let offset : Value := .bool ((← (Value.int len).mod n) != 0)
  return .tuple (← (← span 0 n).mapM fun i => do
    let j ← (← h.mul i).add (← i.mul offset)
    crop grid (.tuple [j, 0]) (.tuple [h, .int w]))

def hconcat (a b : Value) : Answer Value := do
  let xs ← a.elements
  let ys ← b.elements
  return .tuple (← (xs.zip ys).mapM fun (x, y) => x.add y)

def vconcat (a b : Value) : Answer Value := a.add b

def cellwise (a b fallback : Value) : Answer Value := do
  let (h, w) ← extent a
  return .tuple (← (rangeList 0 h 1).mapM fun i => do
    return .tuple (← (rangeList 0 w 1).mapM fun j => do
      let x ← cellAt a i j
      return if x == (← cellAt b i j) then x else fallback))

/-! ## 6. Scaling -/

def copies (factor v : Value) : Answer (List Value) := do
  return List.replicate (← factor.integer).toNat v

def hupscale (grid factor : Value) : Answer Value := do
  return .tuple (← (← grid.elements).mapM fun row => do
    return .tuple (← (← row.elements).mapM (copies factor)).flatten)

def vupscale (grid factor : Value) : Answer Value := do
  return .tuple (← (← grid.elements).mapM (copies factor)).flatten

def upscaleObject (element factor : Value) : Answer Value := do
  if (← element.size) == 0 then return .fset []
  let (di, dj) ← (← ulcorner element).parts2
  let back : Value := .tuple [di, dj]
  let normed ← shift element (.tuple [← di.neg, ← dj.neg])
  let blocks ← (← normed.elements).mapM fun e => do
    let (c, i, j) ← e.cell
    let steps ← span 0 factor
    let rows ← steps.mapM fun io => steps.mapM fun jo => do
      let i ← (← i.mul factor).add io
      let j ← (← j.mul factor).add jo
      return Value.tuple [c, .tuple [i, j]]
    return rows.flatten
  shift (← fsetOf blocks.flatten) back

def upscale (element factor : Value) : Answer Value := do
  if element.isTuple then
    let rows ← (← element.elements).mapM fun row => do
      let r : Value := .tuple (← (← row.elements).mapM (copies factor)).flatten
      copies factor r
    return .tuple rows.flatten
  else upscaleObject element factor

def downscale (grid factor : Value) : Answer Value := do
  let (h, w) ← extent grid
  let chosen (n : Nat) : Answer (List Value) := (rangeList 0 n 1).filterM fun k => do return (← k.mod factor) == 0
  let rows ← (rangeList 0 h 1).mapM fun i => do
    return Value.tuple (← (← chosen w).mapM fun j => cellAt grid i j)
  return .tuple (← (← chosen h).mapM fun i => nth rows i)

/-! ## 7. Lines of one colour -/

def isUniform (xs : List Value) : Answer Bool := do
  return (SortedSet.ofList (← xs.mapM asElement)).length == 1

def uniformRows (grid : Value) : Answer (List Nat) := do
  let rows ← grid.elements
  return (← rows.zipIdx.filterM fun (r, _) => do isUniform (← r.elements)).map (·.2)

def uniformColumns (grid : Value) (h w : Nat) : Answer (List Nat) :=
  (List.range w).filterM fun j => do
    isUniform (← (rangeList 0 h 1).mapM fun i => cellAt grid i (.int j))

def compress (grid : Value) : Answer Value := do
  let ri ← uniformRows grid
  let (h, w) ← extent grid
  let ci ← uniformColumns grid h w
  let rows := (← grid.elements).zipIdx.filter fun (_, i) => !ri.contains i
  return .tuple (← rows.mapM fun (r, _) => do
    return .tuple (((← r.elements).zipIdx.filter fun (_, j) => !ci.contains j).map (·.1)))

end PuzzlePrograms.Dsl
