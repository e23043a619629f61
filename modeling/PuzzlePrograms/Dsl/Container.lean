import PuzzlePrograms.Dsl.Number

/-!
# Containers

Operations on tuples, lists and sets that keep the kind of the container they are given. Where an
operation computes elements one by one, a failure met on the way is the operation's failure.
-/

namespace PuzzlePrograms.Dsl

open Value

/-! ## 1. Building containers -/

def sameKind (like : Value) (xs : List Value) : Answer Value :=
  match like.kind? with
  | some k => k.build xs
  | none => .error .wrongType

def initset (v : Value) : Answer Value := fsetOf [v]

def totuple (c : Value) : Answer Value := do return .tuple (← c.elements)

def combine (a b : Value) : Answer Value := do
  let xs ← a.elements
  let ys ← b.elements
  sameKind a (xs ++ ys)

def intersection (a b : Value) : Answer Value := a.and b

def keep (c : Value) (test : Value → Answer Bool) : Answer Value := do
  let xs ← c.elements
  sameKind c (← xs.filterM test)

def difference (a b : Value) : Answer Value :=
  match a, b with
  | .fset xs, .fset ys | .fset xs, .mset ys => .ok (.fset (SortedSet.diff xs ys))
  | .mset xs, .fset ys | .mset xs, .mset ys => .ok (.mset (SortedSet.diff xs ys))
  | a, b => keep a fun e => do return !(← e.isIn b)

def remove (v c : Value) : Answer Value := keep c fun e => .ok (e != v)

def merge (cs : Value) : Answer Value := do
  let xs ← (← cs.elements).mapM Value.elements
  sameKind cs xs.flatten

def insert (v c : Value) : Answer Value :=
  match c with
  | .fset xs => do return .fset (SortedSet.insert xs (← v.asElement))
  | .mset xs => do return .mset (SortedSet.insert xs (← v.asElement))
  | _ => .error .noAttribute

def repeatItem (item num : Value) : Answer Value := do
  return .tuple (List.replicate (← num.integer).toNat item)

def product (a b : Value) : Answer Value := do
  let ys ← b.elements
  if ys.isEmpty then return .fset []
  let xs ← a.elements
  fsetOf (ys.flatMap fun j => xs.map fun i => .tuple [i, j])

def pair (a b : Value) : Answer Value := do
  let xs ← a.elements
  let ys ← b.elements
  return .tuple (List.zipWith (fun x y => .tuple [x, y]) xs ys)

def dedupe (c : Value) : Answer Value := do
  let xs ← c.elements
  match c with
  | .tuple _ | .list _ =>
    return .tuple ((xs.zipIdx.filter fun (e, i) => xs.findIdx (· == e) == i).map (·.1))
  | .str _ | .bytes _ => return .tuple ((xs.zipIdx.filter fun (e, i) => xs.findIdx (· == e) == i).map (·.1))
  | _ => if xs.isEmpty then return .tuple [] else .error .noAttribute

/-! ## 2. Asking containers -/

def contained (v c : Value) : Answer Value := do return .bool (← v.isIn c)

def size (c : Value) : Answer Value := do return .int (← c.size)

def first (c : Value) : Answer Value := c.head

def last (c : Value) : Answer Value := do
  match (← c.elements).getLast? with
  | some x => return x
  | none => .error .badValue

def other (c v : Value) : Answer Value := do first (← remove v c)

def best (r : Rel) : List Value → Answer (Option Value)
  | [] => .ok none
  | x :: xs => do
    let y ← xs.foldlM (fun acc y => do return if ← related r y acc then y else acc) x
    return some y

def maximum (c : Value) : Answer Value := do return (← best .gt (← c.elements)).getD 0

def minimum (c : Value) : Answer Value := do return (← best .lt (← c.elements)).getD 0

def maxOf (xs : List Value) : Answer Value := do
  match ← best .gt xs with
  | some x => return x
  | none => .error .badValue

def minOf (xs : List Value) : Answer Value := do
  match ← best .lt xs with
  | some x => return x
  | none => .error .badValue

/-! ## 3. Frequencies -/

def byCount (greatest : Bool) (elems values : List Value) : Answer Value :=
  let counted := elems.map fun e => (e, countIn values e)
  match counted with
  | [] => .error .badValue
  | c :: cs =>
    .ok (cs.foldl (fun acc c =>
      if greatest then (if acc.2 < c.2 then c else acc)
      else (if c.2 < acc.2 then c else acc)) c).1

def byFrequency (greatest : Bool) (c : Value) : Answer Value := do
  let xs ← c.elements
  let elems := SortedSet.ofList (← xs.mapM asElement)
  match c with
  | .tuple _ | .list _ | .str _ | .bytes _ => byCount greatest elems xs
  | _ => .error .noAttribute

def mostcommon (c : Value) : Answer Value := byFrequency true c

def leastcommon (c : Value) : Answer Value := byFrequency false c

end PuzzlePrograms.Dsl
