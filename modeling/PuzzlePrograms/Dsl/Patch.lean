import PuzzlePrograms.Dsl.Container

/-!
# Patches

A patch is a container of places, or of coloured places (a colour and a place each). A place is a
vector of a row and a column. `toindices` forgets the colours; bounds and corners are those of the
places; boxes and lines are sets of places.
-/

namespace PuzzlePrograms.Dsl

open Value

/-! ## 1. Places of a patch -/

def isColored (patch : Value) : Answer Bool := do
  return (← (← patch.head).item 1).isTuple

def toindices (patch : Value) : Answer Value := do
  if (← patch.size) == 0 then return .fset []
  if ← isColored patch then
    fsetOf (← (← patch.elements).mapM fun e => do return (← e.parts2).2)
  else return patch

def coordinates (patch : Value) : Answer (List (Value × Value)) := do
  (← (← toindices patch).elements).mapM Value.parts2

def extreme (r : Rel) (f : Value → Answer Value) : List Value → Answer Value
  | [] => .error .badValue
  | x :: xs => do
    xs.foldlM (fun acc y => do
      let v ← f y
      return if ← related r v acc then v else acc) (← f x)

def uppermost (patch : Value) : Answer Value := do
  extreme .lt (fun e => do return (← e.parts2).1) (← (← toindices patch).elements)

def lowermost (patch : Value) : Answer Value := do
  extreme .gt (fun e => do return (← e.parts2).1) (← (← toindices patch).elements)

def leftmost (patch : Value) : Answer Value := do
  extreme .lt (fun e => do return (← e.parts2).2) (← (← toindices patch).elements)

def rightmost (patch : Value) : Answer Value := do
  extreme .gt (fun e => do return (← e.parts2).2) (← (← toindices patch).elements)

/-! ## 2. Corners -/

def transpose (rows : List (List α)) : List (List α) :=
  match rows with
  | [] => []
  | r :: rs =>
    let n := rs.foldl (fun m r => min m r.length) r.length
    rs.foldr (fun row cols => List.zipWith (· :: ·) row cols) (List.replicate n [])
      |> fun cols => List.zipWith (· :: ·) r cols

def placeParts (patch : Value) : Answer (List (List Value)) := do
  return transpose (← (← (← toindices patch).elements).mapM Value.elements)

def ulcorner (patch : Value) : Answer Value := do
  return .tuple (← (← placeParts patch).mapM minOf)

def lrcorner (patch : Value) : Answer Value := do
  return .tuple (← (← placeParts patch).mapM maxOf)

def mixedCorner (f g : List Value → Answer Value) (patch : Value) : Answer Value := do
  return .tuple (← (← placeParts patch).zipIdx.mapM fun (xs, k) =>
    if k == 0 then f xs else if k == 1 then g xs else .error .missingKey)

def urcorner : Value → Answer Value := mixedCorner minOf maxOf

def llcorner : Value → Answer Value := mixedCorner maxOf minOf

def corners (patch : Value) : Answer Value := do
  let a ← ulcorner patch
  let b ← urcorner patch
  let c ← llcorner patch
  let d ← lrcorner patch
  fsetOf [a, b, c, d]

/-! ## 3. Size -/

def height (piece : Value) : Answer Value := do
  if (← piece.size) == 0 then return 0
  if piece.isTuple then return .int (← piece.size)
  (← (← lowermost piece).sub (← uppermost piece)).add 1

def width (piece : Value) : Answer Value := do
  if (← piece.size) == 0 then return 0
  if piece.isTuple then return .int (← (← piece.item 0).size)
  (← (← rightmost piece).sub (← leftmost piece)).add 1

def shape (piece : Value) : Answer Value := do
  let h ← height piece
  let w ← width piece
  return .tuple [h, w]

def portrait (piece : Value) : Answer Value := do
  let h ← height piece
  let w ← width piece
  return .bool (← related .gt h w)

def square (piece : Value) : Answer Value := do
  if piece.isTuple then
    return .bool ((← piece.size) == (← (← piece.item 0).size))
  let area ← (← height piece).mul (← width piece)
  if area == .int (← piece.size) then
    return .bool ((← height piece) == (← width piece))
  else return .bool false

def vline (patch : Value) : Answer Value := do
  if (← height patch) == .int (← patch.size) then return .bool ((← width patch) == 1)
  else return .bool false

def hline (patch : Value) : Answer Value := do
  if (← width patch) == .int (← patch.size) then return .bool ((← height patch) == 1)
  else return .bool false

/-! ## 4. Moving and colouring -/

def recolor (color patch : Value) : Answer Value := do
  fsetOf ((← (← toindices patch).elements).map fun loc => .tuple [color, loc])

def mapPlaces (f : Value → Value → Answer (Value × Value)) (patch : Value) : Answer Value := do
  let xs ← patch.elements
  if ← isColored patch then
    fsetOf (← xs.mapM fun e => do
      let (c, i, j) ← e.cell
      let (i, j) ← f i j
      return .tuple [c, .tuple [i, j]])
  else
    fsetOf (← xs.mapM fun e => do
      let (i, j) ← e.parts2
      let (i, j) ← f i j
      return .tuple [i, j])

def shift (patch directions : Value) : Answer Value := do
  if (← patch.size) == 0 then return patch
  let (di, dj) ← directions.parts2
  mapPlaces (fun i j => do return (← i.add di, ← j.add dj)) patch

def normalize (patch : Value) : Answer Value := do
  if (← patch.size) == 0 then return patch
  let di ← (← uppermost patch).neg
  let dj ← (← leftmost patch).neg
  shift patch (.tuple [di, dj])

/-! ## 5. Neighbours and distances -/

def around (offsets : List (Int × Int)) (loc : Value) : Answer Value := do
  let part (k : Value) (d : Int) : Answer Value := do
    let v ← loc.item k
    if d == 0 then return v else if d < 0 then v.sub (.int (-d)) else v.add (.int d)
  fsetOf (← offsets.mapM fun (di, dj) => do
    let i ← part 0 di
    let j ← part 1 dj
    return .tuple [i, j])

def dneighbors : Value → Answer Value := around [(-1, 0), (1, 0), (0, -1), (0, 1)]

def ineighbors : Value → Answer Value := around [(-1, -1), (-1, 1), (1, -1), (1, 1)]

def neighbors (loc : Value) : Answer Value := do
  (← dneighbors loc).or (← ineighbors loc)

def sharesLine (part : Value × Value → Value) (a b : Value) : Answer Value := do
  let xs ← (← coordinates a).mapM fun p => (part p).asElement
  let ys ← (← coordinates b).mapM fun p => (part p).asElement
  return .bool (!(SortedSet.meet (SortedSet.ofList xs) (SortedSet.ofList ys)).isEmpty)

def hmatching : Value → Value → Answer Value := sharesLine (·.1)

def vmatching : Value → Value → Answer Value := sharesLine (·.2)

def intPlaces? : List (Value × Value) → Option (List (Int × Int))
  | [] => some []
  | (.int i, .int j) :: rest => (intPlaces? rest).map ((i, j) :: ·)
  | _ => none

def leastDistance (xs ys : List (Int × Int)) : Option Int :=
  xs.foldl (fun acc (ai, aj) => ys.foldl (fun acc (bi, bj) =>
    let d : Int := (ai - bi).natAbs + (aj - bj).natAbs
    match acc with
    | some m => some (if d < m then d else m)
    | none => some d) acc) none

def manhattan (a b : Value) : Answer Value := do
  let xs ← coordinates a
  if xs.isEmpty then .error .badValue
  let ys ← coordinates b
  if ys.isEmpty then .error .badValue
  match intPlaces? xs, intPlaces? ys with
  | some ps, some qs => return .int ((leastDistance ps qs).getD 0)
  | _, _ =>
    let ds ← xs.flatMapM fun (ai, aj) => ys.mapM fun (bi, bj) => do
      (← (← ai.sub bi).abs).add (← (← aj.sub bj).abs)
    minOf ds

def adjacent (a b : Value) : Answer Value := do
  return .bool ((← manhattan a b) == 1)

def bordering (patch grid : Value) : Answer Value := do
  if (← uppermost patch) == 0 then return .bool true
  if (← leftmost patch) == 0 then return .bool true
  if (← lowermost patch) == .int ((← grid.size) - 1 : Int) then return .bool true
  return .bool ((← rightmost patch) == .int ((← (← grid.item 0).size) - 1 : Int))

def total (xs : List Value) : Answer Value := xs.foldlM Value.add 0

def centerofmass (patch : Value) : Answer Value := do
  return .tuple (← (← placeParts patch).mapM fun xs => do
    (← total xs).floorDiv (.int (← patch.size)))

def center (patch : Value) : Answer Value := do
  let i ← (← uppermost patch).add (← (← height patch).floorDiv 2)
  let j ← (← leftmost patch).add (← (← width patch).floorDiv 2)
  return .tuple [i, j]

def position (a b : Value) : Answer Value := do
  let (ia, ja) ← (← center (← toindices a)).parts2
  let (ib, jb) ← (← center (← toindices b)).parts2
  let sense (x y : Value) : Answer Value := do
    return if ← related .lt x y then 1 else .int (-1)
  if ia == ib then return .tuple [0, ← sense ja jb]
  else if ja == jb then return .tuple [← sense ia ib, 0]
  else if ← related .lt ia ib then return .tuple [1, ← sense ja jb]
  else if ← related .gt ia ib then return .tuple [.int (-1), ← sense ja jb]
  else return .nothing

/-! ## 6. Lines and boxes -/

def span (a b : Value) : Answer (List Value) := do
  return rangeList (← a.integer) (← b.integer) 1

def smaller (a b : Value) : Answer Value := do return if ← related .lt b a then b else a

def larger (a b : Value) : Answer Value := do return if ← related .gt b a then b else a

/-- The straight line between two places: along a row, a column or a diagonal, else nothing. -/
def connect (a b : Value) : Answer Value := do
  let (ai, aj) ← a.parts2
  let (bi, bj) ← b.parts2
  let si ← smaller ai bi
  let ei ← (← larger ai bi).add 1
  let sj ← smaller aj bj
  let ej ← (← larger aj bj).add 1
  if ai == bi then fsetOf ((← span sj ej).map fun j => .tuple [ai, j])
  else if aj == bj then fsetOf ((← span si ei).map fun i => .tuple [i, aj])
  else if (← bi.sub ai) == (← bj.sub aj) then
    fsetOf (List.zipWith (fun i j => .tuple [i, j]) (← span si ei) (← span sj ej))
  else if (← bi.sub ai) == (← aj.sub bj) then
    fsetOf (List.zipWith (fun i j => .tuple [i, j]) (← span si ei) (← span sj ej).reverse)
  else return .fset []

def shoot (start direction : Value) : Answer Value := do
  let i ← (← start.item 0).add (← (Value.int 42).mul (← direction.item 0))
  let j ← (← start.item 1).add (← (Value.int 42).mul (← direction.item 1))
  connect start (.tuple [i, j])

def vfrontier (loc : Value) : Answer Value := do
  let j ← loc.item 1
  fsetOf ((rangeList 0 30 1).map fun i => .tuple [i, j])

def hfrontier (loc : Value) : Answer Value := do
  let i ← loc.item 0
  fsetOf ((rangeList 0 30 1).map fun j => .tuple [i, j])

def backdrop (patch : Value) : Answer Value := do
  if (← patch.size) == 0 then return .fset []
  let (si, sj) ← (← ulcorner (← toindices patch)).parts2
  let (ei, ej) ← (← lrcorner patch).parts2
  let rows ← span si (← ei.add 1)
  if rows.isEmpty then return .fset []
  let cols ← span sj (← ej.add 1)
  fsetOf (rows.flatMap fun i => cols.map fun j => .tuple [i, j])

def delta (patch : Value) : Answer Value := do
  if (← patch.size) == 0 then return .fset []
  (← backdrop patch).sub (← toindices patch)

def outline (ai aj bi bj : Value) : Answer Value := do
  let si ← smaller ai bi
  let sj ← smaller aj bj
  let ei ← larger ai bi
  let ej ← larger aj bj
  let rows ← span si (← ei.add 1)
  let cols ← span sj (← ej.add 1)
  fsetOf ((rows.map fun i => .tuple [i, sj]) ++ (rows.map fun i => .tuple [i, ej])
    ++ (cols.map fun j => .tuple [si, j]) ++ (cols.map fun j => .tuple [ei, j]))

def inbox (patch : Value) : Answer Value := do
  let ai ← (← uppermost patch).add 1
  let aj ← (← leftmost patch).add 1
  let bi ← (← lowermost patch).sub 1
  let bj ← (← rightmost patch).sub 1
  outline ai aj bi bj

def outbox (patch : Value) : Answer Value := do
  let ai ← (← uppermost patch).sub 1
  let aj ← (← leftmost patch).sub 1
  let bi ← (← lowermost patch).add 1
  let bj ← (← rightmost patch).add 1
  outline ai aj bi bj

def box (patch : Value) : Answer Value := do
  if (← patch.size) == 0 then return patch
  let (ai, aj) ← (← ulcorner patch).parts2
  let (bi, bj) ← (← lrcorner patch).parts2
  outline ai aj bi bj

/-! ## 7. Gravitation -/

def fall (direction destination : Value) : Nat → Value → Value → Value → Value → Value → Answer (Value × Value)
  | 0, _, gi, gj, _, _ => .ok (gi, gj)
  | fuel + 1, source, gi, gj, i, j => do
    if (← adjacent source destination).truthy then return (gi, gj)
    fall direction destination fuel (← shift source direction) (← gi.add i) (← gj.add j) i j

/-- How far to move a patch until it touches another: down or up if they share a column, else
    right or left. -/
def gravitate (source destination : Value) : Answer Value := do
  let (si, sj) ← (← center source).parts2
  let (di, dj) ← (← center destination).parts2
  let vertical := (← vmatching source destination).truthy
  let sense (x y : Value) : Answer Value := do
    return if ← related .lt x y then 1 else .int (-1)
  let i ← if vertical then sense si di else pure 0
  let j ← if vertical then pure 0 else sense sj dj
  let (gi, gj) ← fall (.tuple [i, j]) destination 42 source i j i j
  return .tuple [← gi.sub i, ← gj.sub j]

end PuzzlePrograms.Dsl
