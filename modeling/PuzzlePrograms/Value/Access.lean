import PuzzlePrograms.Value.Order

/-!
# Reading values: size, elements, positions, comparison

Every reader says what it does for each kind of value and fails with a cause otherwise. Positions
count from the end when negative; slices clip to the sequence.
-/

namespace PuzzlePrograms.Value

/-! ## 1. Truth, size and elements -/

/-- Whether a value counts as true: numbers other than zero, containers with an element, and all
    that is neither number, container nor nothing. -/
def truthy : Value → Bool
  | .nothing => false
  | .bool b => b
  | .int i => i != 0
  | .float x => x != 0.0
  | .str s => s != ""
  | .bytes bs => !bs.isEmpty
  | .tuple xs | .list xs | .fset xs | .mset xs => !xs.isEmpty
  | .dict kvs => !kvs.isEmpty
  | .prim _ | .closure .. => true

def size : Value → Answer Nat
  | .str s => .ok s.length
  | .bytes bs => .ok bs.length
  | .tuple xs | .list xs | .fset xs | .mset xs => .ok xs.length
  | .dict kvs => .ok kvs.length
  | _ => .error .wrongType

def elements : Value → Answer (List Value)
  | .str s => .ok (s.toList.map fun c => .str c.toString)
  | .bytes bs => .ok (bs.map fun b => .int b.toNat)
  | .tuple xs | .list xs | .fset xs | .mset xs => .ok xs
  | .dict kvs => .ok (kvs.map (·.1))
  | _ => .error .wrongType

def head (v : Value) : Answer Value := do
  match ← v.elements with
  | x :: _ => .ok x
  | [] => .error .exhausted

def parts2 (v : Value) : Answer (Value × Value) := do
  match ← v.elements with
  | [a, b] => .ok (a, b)
  | _ => .error .badValue

def cell (v : Value) : Answer (Value × Value × Value) := do
  let (c, loc) ← v.parts2
  let (i, j) ← loc.parts2
  .ok (c, i, j)

/-! ## 2. Positions -/

def place? (n : Nat) (i : Int) : Option Nat :=
  let k := if i < 0 then i + n else i
  if 0 ≤ k && k < n then some k.toNat else none

def nth (xs : List Value) (i : Value) : Answer Value :=
  match i.int? with
  | some k =>
    match place? xs.length k with
    | some n => .ok (xs.getD n .nothing)
    | none => .error .outOfRange
  | none => .error .wrongType

def lookup? (kvs : List (Value × Value)) (k : Value) : Option Value :=
  (kvs.find? fun e => e.1.compare k == .eq).map (·.2)

def setEntry : List (Value × Value) → Value → Value → List (Value × Value)
  | [], k, v => [(k, v)]
  | (k', v') :: rest, k, v =>
    if k'.compare k == .eq then (k', v) :: rest else (k', v') :: setEntry rest k v

def item (v i : Value) : Answer Value :=
  match v with
  | .tuple xs | .list xs => nth xs i
  | .str s => nth (s.toList.map fun c => .str c.toString) i
  | .bytes bs => nth (bs.map fun b => .int b.toNat) i
  | .dict kvs =>
    if i.isHashable then
      match lookup? kvs i with
      | some x => .ok x
      | none => .error .missingKey
    else .error .wrongType
  | _ => .error .wrongType

def setItem (v i x : Value) : Answer Value :=
  match v with
  | .list xs =>
    match i.int? with
    | some k =>
      match place? xs.length k with
      | some n => .ok (.list (xs.set n x))
      | none => .error .outOfRange
    | none => .error .wrongType
  | .dict kvs => do return .dict (setEntry kvs (← i.asElement) x)
  | _ => .error .wrongType

def eraseItem (v i : Value) : Answer Value :=
  match v with
  | .list xs =>
    match i.int? with
    | some k =>
      match place? xs.length k with
      | some n => .ok (.list (xs.eraseIdx n))
      | none => .error .outOfRange
    | none => .error .wrongType
  | .dict kvs => do
    let k ← i.asElement
    if (lookup? kvs k).isSome then .ok (.dict (kvs.filter fun e => e.1.compare k != .eq))
    else .error .missingKey
  | _ => .error .wrongType

/-! ## 3. Slices -/

def bound (v : Value) : Answer (Option Int) :=
  match v with
  | .nothing => .ok none
  | v =>
    match v.int? with
    | some i => .ok (some i)
    | none => .error .wrongType

def slicePositions (n : Nat) (lower upper step : Option Int) : Answer (List Nat) :=
  let s := step.getD 1
  if s == 0 then .error .badValue
  else
    let lo : Int := if s < 0 then -1 else 0
    let hi : Int := if s < 0 then (n : Int) - 1 else n
    let clip (i : Int) : Int := let k := if i < 0 then i + n else i; max lo (min hi k)
    let first := (lower.map clip).getD (if s < 0 then hi else lo)
    let last := (upper.map clip).getD (if s < 0 then lo else hi)
    let count : Nat :=
      if s < 0 then (Int.fdiv (first - last + (-s) - 1) (-s)).toNat
      else (Int.fdiv (last - first + s - 1) s).toNat
    .ok ((List.range count).map fun (k : Nat) => (first + (k : Int) * s).toNat)

def sliceList (xs : List α) (lower upper step : Option Int) : Answer (List α) := do
  match step with
  | none | some 1 =>
    let n : Int := xs.length
    let clip (i : Int) : Int := let k := if i < 0 then i + n else i; max 0 (min n k)
    let a := (lower.map clip).getD 0
    let b := (upper.map clip).getD n
    .ok ((xs.drop a.toNat).take (b - a).toNat)
  | _ =>
    let ps ← slicePositions xs.length lower upper step
    let arr := xs.toArray
    .ok (ps.filterMap fun k => arr[k]?)

def slice (v lower upper step : Value) : Answer Value := do
  let cut {α : Type} (xs : List α) : Answer (List α) := do
    -- the step is looked at first, then the bounds
    let s ← bound step
    if s == some 0 then .error .badValue
    let lo ← bound lower
    let hi ← bound upper
    sliceList xs lo hi s
  match v with
  | .tuple xs => return .tuple (← cut xs)
  | .list xs => return .list (← cut xs)
  | .str s => return .str (String.ofList (← cut s.toList))
  | .bytes bs => return .bytes (← cut bs)
  | _ => .error .wrongType

def reversed (v : Value) : Answer Value := v.slice .nothing .nothing (.int (-1))

/-! ## 4. Comparison -/

inductive Rel where
  | lt | le | gt | ge
  deriving DecidableEq, Repr

def Rel.holds : Rel → Ordering → Bool
  | .lt, o => o == .lt
  | .le, o => o != .gt
  | .gt, o => o == .gt
  | .ge, o => o != .lt

def isNumber : Value → Bool
  | .bool _ | .int _ | .float _ => true
  | _ => false

mutual

/-- Whether a comparison holds between two values. Sequences compare at the first element that
    differs; between sets it is inclusion. -/
def related (r : Rel) : Value → Value → Answer Bool
  | .tuple xs, .tuple ys | .list xs, .list ys => relatedList r xs ys
  | .str s, .str t => .ok (r.holds (compareString s t))
  | .bytes s, .bytes t => .ok (r.holds (compareOfLessAndEq s t))
  | .fset xs, .fset ys | .fset xs, .mset ys | .mset xs, .fset ys | .mset xs, .mset ys =>
    .ok <| match r with
      | .lt => SortedSet.isSubset xs ys && xs.length < ys.length
      | .le => SortedSet.isSubset xs ys
      | .gt => SortedSet.isSubset ys xs && ys.length < xs.length
      | .ge => SortedSet.isSubset ys xs
  | a, b => if a.isNumber && b.isNumber then .ok (r.holds (a.compare b)) else .error .wrongType

def relatedList (r : Rel) : List Value → List Value → Answer Bool
  | [], [] => .ok (r.holds .eq)
  | [], _ :: _ => .ok (r.holds .lt)
  | _ :: _, [] => .ok (r.holds .gt)
  | x :: xs, y :: ys => if eqv x y then relatedList r xs ys else related r x y

end

def isIn (v c : Value) : Answer Bool :=
  match c with
  | .tuple xs | .list xs => .ok (xs.any fun x => eqv x v)
  | .fset xs | .mset xs =>
    match v with
    | .mset ys => .ok (SortedSet.contains xs (.fset ys))
    | v => if v.isHashable then .ok (SortedSet.contains xs v) else .error .wrongType
  | .dict kvs => if v.isHashable then .ok (lookup? kvs v).isSome else .error .wrongType
  | .str s =>
    match v with
    | .str t => .ok ((s.splitOn t).length != 1 || t == "")
    | _ => .error .wrongType
  | _ => .error .wrongType

def positionIn (xs : List Value) (v : Value) : Answer Nat :=
  match xs.findIdx? fun x => eqv x v with
  | some i => .ok i
  | none => .error .badValue

def countIn (xs : List Value) (v : Value) : Nat := xs.countP fun x => eqv x v

/-! ## 5. Containers of a kind -/

def fsetOf (xs : List Value) : Answer Value := do
  let ys ← xs.mapM asElement
  return .fset (SortedSet.ofList ys)

def msetOf (xs : List Value) : Answer Value := do
  let ys ← xs.mapM asElement
  return .mset (SortedSet.ofList ys)

def dictOf (xs : List Value) : Answer Value := do
  let kvs ← xs.foldlM (fun kvs e => do
    match ← e.elements with
    | [k, v] => do
      let k ← asElement k
      return setEntry kvs k v
    | _ => .error .badValue) []
  return .dict kvs

inductive Kind where
  | tuple | list | fset | mset | dict
  deriving DecidableEq, Repr

def kind? : Value → Option Kind
  | .tuple _ => some .tuple
  | .list _ => some .list
  | .fset _ => some .fset
  | .mset _ => some .mset
  | .dict _ => some .dict
  | _ => none

def Kind.build : Kind → List Value → Answer Value
  | .tuple, xs => .ok (.tuple xs)
  | .list, xs => .ok (.list xs)
  | .fset, xs => fsetOf xs
  | .mset, xs => msetOf xs
  | .dict, xs => dictOf xs

def Kind.admits : Kind → Value → Answer Value
  | .fset, v | .mset, v => asElement v
  | _, v => .ok v

end PuzzlePrograms.Value
