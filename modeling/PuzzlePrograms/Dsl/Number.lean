import PuzzlePrograms.Value.Arithmetic

/-!
# Numbers, vectors and truth values

The arithmetic of the grid vocabulary works on whole numbers and on vectors of two numbers, and mixes
them: a number beside a vector stands for the vector with that number twice.
-/

namespace PuzzlePrograms.Dsl

open Value

/-! ## 1. Arithmetic on numbers and vectors -/

def onVectors (f : Value → Value → Answer Value) (a b : Value) : Answer Value := do
  if a.isInt && b.isInt then f a b
  else if a.isTuple && b.isTuple then
    let x ← f (← a.item 0) (← b.item 0)
    let y ← f (← a.item 1) (← b.item 1)
    return .tuple [x, y]
  else if a.isInt && b.isTuple then
    let x ← f a (← b.item 0)
    let y ← f a (← b.item 1)
    return .tuple [x, y]
  else
    let x ← f (← a.item 0) b
    let y ← f (← a.item 1) b
    return .tuple [x, y]

def add : Value → Value → Answer Value := onVectors Value.add

def subtract : Value → Value → Answer Value := onVectors Value.sub

def multiply : Value → Value → Answer Value := onVectors Value.mul

def divide : Value → Value → Answer Value := onVectors Value.floorDiv

def onVector (f : Value → Answer Value) (n : Value) : Answer Value := do
  if n.isInt then f n
  else
    let x ← f (← n.item 0)
    let y ← f (← n.item 1)
    return .tuple [x, y]

def invert : Value → Answer Value := onVector Value.neg

def double : Value → Answer Value := onVector (Value.mul · 2)

def halve : Value → Answer Value := onVector (Value.floorDiv · 2)

def increment : Value → Answer Value := onVector (Value.add · 1)

def decrement : Value → Answer Value := onVector (Value.sub · 1)

def crement : Value → Answer Value := onVector fun x => do
  if x == 0 then return 0
  else if ← related .gt x 0 then x.add 1 else x.sub 1

def sign : Value → Answer Value := onVector fun x => do
  if x == 0 then return 0
  else if ← related .gt x 0 then return 1 else return (.int (-1))

/-! ## 2. Tests -/

def even (n : Value) : Answer Value := do
  return .bool ((← n.mod 2) == 0)

def positive (x : Value) : Answer Value := do
  return .bool (← related .gt x 0)

def greater (a b : Value) : Answer Value := do
  return .bool (← related .gt a b)

def equality (a b : Value) : Value := .bool (a == b)

def flip (b : Value) : Value := .bool (!b.truthy)

def both (a b : Value) : Value := if a.truthy then b else a

def either (a b : Value) : Value := if a.truthy then a else b

def branch (c t e : Value) : Value := if c.truthy then t else e

/-! ## 3. Vectors -/

def toivec (i : Value) : Value := .tuple [i, 0]

def tojvec (j : Value) : Value := .tuple [0, j]

def astuple (a b : Value) : Value := .tuple [a, b]

def rangeList (start stop step : Int) : List Value :=
  let count : Nat :=
    if 0 < step then (Int.fdiv (stop - start + step - 1) step).toNat
    else (Int.fdiv (start - stop - step - 1) (-step)).toNat
  (List.range count).map fun (k : Nat) => .int (start + (k : Int) * step)

def interval (start stop step : Value) : Answer Value := do
  let a ← start.integer
  let b ← stop.integer
  let s ← step.integer
  if s == 0 then .error .badValue else return .tuple (rangeList a b s)

end PuzzlePrograms.Dsl
