import PuzzlePrograms.Failure
import PuzzlePrograms.Number.Binary64
import PuzzlePrograms.Value

/-!
# The order of values, and sets kept in it

`Value.compare` is the one order of values: nothing, then numbers by value (truth values are 0 and 1,
whole and floating point numbers compare exactly), then texts by code point, then sequences element by
element, then sets as their sorted elements, then functions by the number of parameters they report.
Two values that it calls equal are the same element of a set.

A set is the list of its elements in this order without repetition. `SortedSet.ofList` builds one and
keeps the first of equal elements; union, intersection and difference are merges.
-/

namespace PuzzlePrograms

/-! ## 1. Comparing numbers -/

def compareFloat (x y : Float) : Ordering := if x < y then .lt else if x == y then .eq else .gt

def compareFloatInt (x : Float) (i : Int) : Ordering := (Binary64.compareInt x i).getD .gt

namespace Value

/-! ## 2. The order -/

def rank : Value → Nat
  | .nothing => 0
  | .bool _ | .int _ | .float _ => 1
  | .str _ => 2
  | .bytes _ => 3
  | .tuple _ | .list _ => 4
  | .fset _ | .mset _ => 5
  | .dict _ => 6
  | .prim _ | .closure .. => 7

def functionKey : Value → Nat × Nat × Nat
  | .prim p => (p.reported?.getD 0, 0, p.ctorIdx)
  | .closure n s _ => (s.reported, 1, n)
  | _ => (0, 0, 0)

def boolInt (b : Bool) : Int := if b then 1 else 0

def compareString (s t : String) : Ordering := if s == t then .eq else if s < t then .lt else .gt

def compareBytes (s t : List UInt8) : Ordering := compareOfLessAndEq s t

mutual

def compare : Value → Value → Ordering
  | .int i, .int j => Ord.compare i j
  | .tuple xs, .tuple ys | .tuple xs, .list ys | .list xs, .tuple ys | .list xs, .list ys =>
    compareList xs ys
  | .fset xs, .fset ys | .fset xs, .mset ys | .mset xs, .fset ys | .mset xs, .mset ys =>
    compareList xs ys
  | .bool b, .bool c => Ord.compare (boolInt b) (boolInt c)
  | .bool b, .int j => Ord.compare (boolInt b) j
  | .int i, .bool c => Ord.compare i (boolInt c)
  | .float x, .float y => compareFloat x y
  | .float x, .int j => compareFloatInt x j
  | .float x, .bool c => compareFloatInt x (boolInt c)
  | .int i, .float y => (compareFloatInt y i).swap
  | .bool b, .float y => (compareFloatInt y (boolInt b)).swap
  | .str s, .str t => compareString s t
  | .bytes s, .bytes t => compareBytes s t
  | a, b =>
    match Ord.compare a.rank b.rank with
    | .eq =>
      let (n, k, m) := a.functionKey
      let (n', k', m') := b.functionKey
      (Ord.compare n n').then ((Ord.compare k k').then (Ord.compare m m'))
    | o => o

def compareList : List Value → List Value → Ordering
  | [], [] => .eq
  | [], _ :: _ => .lt
  | _ :: _, [] => .gt
  | x :: xs, y :: ys =>
    match compare x y with
    | .eq => compareList xs ys
    | o => o

end

theorem compare_tuple (xs ys : List Value) : compare (.tuple xs) (.tuple ys) = compareList xs ys := by rw [compare]

theorem compareList_eq_iff {xs ys : List Value}
    (h : ∀ x ∈ xs, ∀ y ∈ ys, (compare x y = .eq ↔ x = y)) : compareList xs ys = .eq ↔ xs = ys := by
  induction xs generalizing ys with
  | nil => cases ys <;> simp [compareList]
  | cons x xs ih =>
    cases ys with
    | nil => simp [compareList]
    | cons y ys =>
      have hxy := h x (by simp) y (by simp)
      have hrest := @ih ys fun a ha b hb => h a (by simp [ha]) b (by simp [hb])
      rw [compareList]
      cases hc : compare x y <;> simp_all

/-! ## 3. Equality -/

mutual

/-- Equality as programs see it: numbers by value, sequences only with their own kind, sets by
    their elements, tables by their entries in any order. -/
def eqv : Value → Value → Bool
  | .tuple xs, .tuple ys | .list xs, .list ys => eqvList xs ys
  | .fset xs, .fset ys | .fset xs, .mset ys | .mset xs, .fset ys | .mset xs, .mset ys =>
    eqvList xs ys
  | .tuple _, .list _ | .list _, .tuple _ => false
  | .dict kvs, .dict kvs' => kvs.length == kvs'.length && eqvEntries kvs kvs'
  | a, b => a.compare b == .eq

def eqvList : List Value → List Value → Bool
  | [], [] => true
  | x :: xs, y :: ys => eqv x y && eqvList xs ys
  | _, _ => false

def eqvEntries : List (Value × Value) → List (Value × Value) → Bool
  | [], _ => true
  | (k, v) :: rest, kvs' =>
    (match kvs'.find? fun e => k.compare e.1 == .eq with
    | some (_, v') => eqv v v'
    | none => false) && eqvEntries rest kvs'

end

instance : BEq Value := ⟨eqv⟩

/-! ## 4. Elements of sets -/

mutual

def isHashable : Value → Bool
  | .list _ | .mset _ | .dict _ => false
  | .tuple xs => allHashable xs
  | _ => true

def allHashable : List Value → Bool
  | [] => true
  | x :: xs => isHashable x && allHashable xs

end

def asElement (v : Value) : Answer Value := if v.isHashable then .ok v else .error .wrongType

end Value

/-! ## 5. Sets as sorted lists -/

namespace SortedSet

open Value (compare)

def isSorted : List Value → Bool
  | x :: y :: rest => compare x y == .lt && isSorted (y :: rest)
  | _ => true

def dedupe : List Value → List Value
  | x :: y :: rest =>
    match compare x y with
    | .eq => dedupe (x :: rest)
    | _ => x :: dedupe (y :: rest)
  | xs => xs

def ofList (xs : List Value) : List Value :=
  if isSorted xs then xs else dedupe (xs.mergeSort fun a b => compare a b != .gt)

def contains : List Value → Value → Bool
  | [], _ => false
  | x :: xs, v =>
    match compare x v with
    | .lt => contains xs v
    | .eq => true
    | .gt => false

def insert : List Value → Value → List Value
  | [], v => [v]
  | x :: xs, v =>
    match compare x v with
    | .lt => x :: insert xs v
    | .eq => x :: xs
    | .gt => v :: x :: xs

def erase : List Value → Value → List Value
  | [], _ => []
  | x :: xs, v =>
    match compare x v with
    | .lt => x :: erase xs v
    | .eq => xs
    | .gt => x :: xs

def consIf (b : Bool) (x : Value) (xs : List Value) : List Value := if b then x :: xs else xs

/-- The merge of two sets, with what is in the first alone, in both, and in the second alone, as the three say. -/
def merge (first both second : Bool) : List Value → List Value → List Value
  | [], ys => if second then ys else []
  | xs, [] => if first then xs else []
  | x :: xs, y :: ys =>
    match compare x y with
    | .lt => consIf first x (merge first both second xs (y :: ys))
    | .eq => consIf both x (merge first both second xs ys)
    | .gt => consIf second y (merge first both second (x :: xs) ys)
termination_by xs ys => xs.length + ys.length

def union : List Value → List Value → List Value := merge true true true

def meet : List Value → List Value → List Value := merge false true false

def diff : List Value → List Value → List Value := merge true false false

/-- The common elements, taken from the smaller set, or from the second of two equal in size. -/
def inter (xs ys : List Value) : List Value := if xs.length < ys.length then meet xs ys else meet ys xs

def symmDiff (xs ys : List Value) : List Value := union (diff xs ys) (diff ys xs)

def isSubset : List Value → List Value → Bool
  | [], _ => true
  | _ :: _, [] => false
  | x :: xs, y :: ys =>
    match compare x y with
    | .lt => false
    | .eq => isSubset xs ys
    | .gt => isSubset (x :: xs) ys
termination_by xs ys => xs.length + ys.length

end SortedSet

end PuzzlePrograms
