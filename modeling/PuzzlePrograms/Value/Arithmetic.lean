import PuzzlePrograms.Value.Access

/-!
# Operators on values

Numbers are whole numbers of any size or 64-bit floating point numbers; where the two meet, the whole
number is rounded to the nearest floating point number first. Division and remainder of whole numbers
go to the floor. Sums and multiples also join and repeat sequences, and the bitwise operators also
combine sets.
-/

namespace PuzzlePrograms

attribute [local instance] natPow intPow

inductive Num where
  | int (i : Int)
  | float (x : Float)

namespace Num

def toValue : Num → Value
  | .int i => .int i
  | .float x => .float x

def toFloat : Num → Answer Float
  | .int i =>
    match Binary64.ofInt i with
    | some x => .ok x
    | none => .error .overflow
  | .float x => .ok x

/-- Apply an operation of whole numbers, or that of floating point numbers if one of the two is. -/
def combine (a b : Num) (f : Int → Int → Int) (g : Float → Float → Float) : Answer Value :=
  match a, b with
  | .int i, .int j => .ok (.int (f i j))
  | _, _ => do return .float (g (← a.toFloat) (← b.toFloat))

end Num

namespace Value

def num? : Value → Option Num
  | .int i => some (.int i)
  | .bool b => some (.int (boolInt b))
  | .float x => some (.float x)
  | _ => none

def number (v : Value) : Answer Num :=
  match v.num? with
  | some n => .ok n
  | none => .error .wrongType

def integer (v : Value) : Answer Int :=
  match v.int? with
  | some i => .ok i
  | none => .error .wrongType

/-! ## 1. Sums, differences, products -/

def add (a b : Value) : Answer Value :=
  match a, b with
  | .int i, .int j => .ok (.int (i + j))
  | .tuple xs, .tuple ys => .ok (.tuple (xs ++ ys))
  | .list xs, .list ys => .ok (.list (xs ++ ys))
  | .str s, .str t => .ok (.str (s ++ t))
  | .bytes s, .bytes t => .ok (.bytes (s ++ t))
  | a, b => do (← a.number).combine (← b.number) (· + ·) (· + ·)

/-- Apply an operation to the elements of two sets; the result is a set of the first kind. -/
def onSets (op : List Value → List Value → List Value) (a b : Value) (otherwise : Answer Value) : Answer Value :=
  match a, b with
  | .fset xs, .fset ys | .fset xs, .mset ys => .ok (.fset (op xs ys))
  | .mset xs, .fset ys | .mset xs, .mset ys => .ok (.mset (op xs ys))
  | _, _ => otherwise

def sub (a b : Value) : Answer Value :=
  match a, b with
  | .int i, .int j => .ok (.int (i - j))
  | a, b => onSets SortedSet.diff a b do (← a.number).combine (← b.number) (· - ·) (· - ·)

def repeated (xs : List α) (n : Int) : List α := (List.replicate n.toNat xs).flatten

def mul (a b : Value) : Answer Value :=
  match a, b with
  | .int i, .int j => .ok (.int (i * j))
  | .tuple xs, n | n, .tuple xs => do return .tuple (repeated xs (← n.integer))
  | .list xs, n | n, .list xs => do return .list (repeated xs (← n.integer))
  | .str s, n | n, .str s => do return .str (String.ofList (repeated s.toList (← n.integer)))
  | .bytes s, n | n, .bytes s => do return .bytes (repeated s (← n.integer))
  | a, b => do (← a.number).combine (← b.number) (· * ·) (· * ·)

/-! ## 2. Division -/

/-- Divide, by one operation for whole numbers and another if one of the two is a floating point number. -/
def divideBy (f : Int → Int → Answer Value) (g : Float → Float → Float) (a b : Value) : Answer Value := do
  let m ← a.number
  let n ← b.number
  match m, n with
  | .int i, .int j => if j == 0 then .error .divisionByZero else f i j
  | _, _ =>
    let x ← m.toFloat
    let y ← n.toFloat
    if y == 0.0 then .error .divisionByZero else .ok (.float (g x y))

def ratio (i j : Int) : Answer Value :=
  match Binary64.ofRatio (if j < 0 then -i else i) j.natAbs with
  | some x => .ok (.float x)
  | none => .error .overflow

def div : Value → Value → Answer Value := divideBy ratio (· / ·)

def floorDiv : Value → Value → Answer Value :=
  divideBy (fun i j => .ok (.int (Int.fdiv i j))) fun x y => (Binary64.floorDivMod x y).1

def mod : Value → Value → Answer Value :=
  divideBy (fun i j => .ok (.int (Int.fmod i j))) fun x y => (Binary64.floorDivMod x y).2

def pow (a b : Value) : Answer Value := do
  let m ← a.number
  let n ← b.number
  match m, n with
  | .int i, .int j =>
    if 0 ≤ j then .ok (.int (i ^ j.toNat))
    else if i == 0 then .error .divisionByZero
    else return .float (Float.pow (← m.toFloat) (← n.toFloat))
  | _, _ =>
    let x ← m.toFloat
    let y ← n.toFloat
    if x == 0.0 && y < 0.0 then .error .divisionByZero else .ok (.float (Float.pow x y))

/-! ## 3. One operand -/

def neg (a : Value) : Answer Value := do
  match ← a.number with
  | .int i => return .int (-i)
  | .float x => return .float (-x)

def pos (a : Value) : Answer Value := do
  return (← a.number).toValue

def abs (a : Value) : Answer Value := do
  match ← a.number with
  | .int i => return .int i.natAbs
  | .float x => return .float x.abs

def toWhole (round : Float → Option Int) (a : Value) : Answer Value := do
  match ← a.number with
  | .int i => return .int i
  | .float x =>
    match round x with
    | some i => return .int i
    | none => .error (if x.isNaN then .badValue else .overflow)

def whole : Value → Answer Value := toWhole Binary64.trunc

def rounded : Value → Answer Value := toWhole Binary64.roundEven

/-! ## 4. Bitwise operators -/

/-- Apply an operation bit by bit to whole numbers in two's complement; two truth values give a
    truth value. -/
def bitwise (f : Int → Int → Int) (g : Bool → Bool → Bool) (a b : Value) : Answer Value :=
  match a, b with
  | .bool x, .bool y => .ok (.bool (g x y))
  | a, b => do return .int (f (← a.integer) (← b.integer))

def andNot (i j : Nat) : Nat := i ^^^ (i &&& j)

def intOr : Int → Int → Int
  | .ofNat i, .ofNat j => (i ||| j : Nat)
  | .ofNat i, .negSucc j => .negSucc (andNot j i)
  | .negSucc i, .ofNat j => .negSucc (andNot i j)
  | .negSucc i, .negSucc j => .negSucc (i &&& j)

def intAnd : Int → Int → Int
  | .ofNat i, .ofNat j => (i &&& j : Nat)
  | .ofNat i, .negSucc j => (andNot i j : Nat)
  | .negSucc i, .ofNat j => (andNot j i : Nat)
  | .negSucc i, .negSucc j => .negSucc (i ||| j)

def intXor : Int → Int → Int
  | .ofNat i, .ofNat j => (i ^^^ j : Nat)
  | .ofNat i, .negSucc j => .negSucc (i ^^^ j)
  | .negSucc i, .ofNat j => .negSucc (i ^^^ j)
  | .negSucc i, .negSucc j => (i ^^^ j : Nat)

def or (a b : Value) : Answer Value :=
  match a, b with
  | .dict kvs, .dict kvs' => .ok (.dict (kvs'.foldl (fun t e => setEntry t e.1 e.2) kvs))
  | a, b => onSets SortedSet.union a b (bitwise intOr (· || ·) a b)

def and (a b : Value) : Answer Value := onSets SortedSet.inter a b (bitwise intAnd (· && ·) a b)

def xor (a b : Value) : Answer Value := onSets SortedSet.symmDiff a b (bitwise intXor (· != ·) a b)

def shiftLimit : Int := 2 ^ (63 : Nat)

def shiftLeft (a b : Value) : Answer Value := do
  let i ← a.integer
  let n ← b.integer
  if n < 0 then .error .badValue
  else if i == 0 then .ok (.int 0)
  else if n < shiftLimit then .ok (.int (i * 2 ^ n.toNat)) else .error .overflow

def shiftRight (a b : Value) : Answer Value := do
  let i ← a.integer
  let n ← b.integer
  if n < 0 then .error .badValue
  else if n < shiftLimit then .ok (.int (i >>> n.toNat)) else .ok (.int (if i < 0 then -1 else 0))

def bitNot (a : Value) : Answer Value := do
  return .int (-1 - (← a.integer))

end Value

end PuzzlePrograms
