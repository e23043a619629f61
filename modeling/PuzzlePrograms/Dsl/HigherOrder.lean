import PuzzlePrograms.Dsl.Container
import PuzzlePrograms.Session

/-!
# Primitives that call functions

Each takes the way to call a function as its first argument, so this file says what is called on what
and in which order, and not what a call is. The order matters: a called function may draw.
-/

namespace PuzzlePrograms.Dsl

open Value

abbrev Caller := Value → List Value → Eval Value

/-! ## 1. Filtering and mapping -/

def gather (k : Kind) (f : α → Eval (Option Value)) (xs : List α) : Eval Value := do
  let ys ← xs.foldlM (fun acc x => do
    match ← Eval.element (f x) with
    | some y => return (← (k.admits y : Answer Value)) :: acc
    | none => return acc) []
  k.build ys.reverse

def kindOf (c : Value) : Answer Kind :=
  match c.kind? with
  | some k => .ok k
  | none => .error .wrongType

def sfilter (call : Caller) (c test : Value) : Eval Value := do
  let xs ← c.elements
  gather (← kindOf c) (fun e => do
    return if (← call test [e]).truthy then some e else none) xs

def mfilter (call : Caller) (c test : Value) : Eval Value := do
  merge (← sfilter call c test)

def extract (call : Caller) (c test : Value) : Eval Value := do
  let xs ← c.elements
  let found ← xs.findM? fun e => do return (← Eval.element (call test [e])).truthy
  match found with
  | some e => return e
  | none => throw .exhausted

def apply (call : Caller) (f c : Value) : Eval Value := do
  let xs ← c.elements
  gather (← kindOf c) (fun e => do return some (← call f [e])) xs

def rapply (call : Caller) (fs v : Value) : Eval Value := do
  let xs ← fs.elements
  gather (← kindOf fs) (fun f => do return some (← call f [v])) xs

def mapply (call : Caller) (f c : Value) : Eval Value := do
  merge (← apply call f c)

def papply (call : Caller) (f a b : Value) : Eval Value := do
  let xs ← a.elements
  let ys ← b.elements
  gather .tuple (fun (x, y) => do return some (← call f [x, y])) (xs.zip ys)

def mpapply (call : Caller) (f a b : Value) : Eval Value := do
  merge (← papply call f a b)

def prapply (call : Caller) (f a b : Value) : Eval Value := do
  let ys ← b.elements
  if ys.isEmpty then return .fset []
  let xs ← a.elements
  gather .fset (fun (x, y) => do return some (← call f [x, y])) (ys.flatMap fun j => xs.map fun i => (i, j))

/-! ## 2. Choosing by a key -/

def bestBy (r : Rel) (key : Value → Eval Value) : List Value → Eval (Option Value)
  | [] => return none
  | x :: xs => do
    let k ← key x
    let (y, _) ← xs.foldlM (fun (best : Value × Value) y => do
      let k ← key y
      let better : Bool ← related r k best.2
      return if better then (y, k) else best) (x, k)
    return some y

def argmax (call : Caller) (c f : Value) : Eval Value := do
  return (← bestBy .gt (fun e => call f [e]) (← c.elements)).getD .nothing

def argmin (call : Caller) (c f : Value) : Eval Value := do
  return (← bestBy .lt (fun e => call f [e]) (← c.elements)).getD .nothing

def valmax (call : Caller) (c f : Value) : Eval Value := do
  call f [(← bestBy .gt (fun e => call f [e]) (← c.elements)).getD 0]

def valmin (call : Caller) (c f : Value) : Eval Value := do
  call f [(← bestBy .lt (fun e => call f [e]) (← c.elements)).getD 0]

def mergeByKey : List (Value × Value) → List (Value × Value) → Answer (List (Value × Value))
  | [], ys => .ok ys
  | xs, [] => .ok xs
  | x :: xs, y :: ys => do
    if ← related .lt y.1 x.1 then return y :: (← mergeByKey (x :: xs) ys)
    else return x :: (← mergeByKey xs (y :: ys))
termination_by xs ys => xs.length + ys.length

def mergePairs : List (List (Value × Value)) → Answer (List (List (Value × Value)))
  | a :: b :: rest => do return (← mergeByKey a b) :: (← mergePairs rest)
  | ls => .ok ls

def sortByKey (xs : List (Value × Value)) : Answer (List Value) := do
  let rec go : Nat → List (List (Value × Value)) → Answer (List (Value × Value))
    | _, [] => .ok []
    | _, [l] => .ok l
    | 0, ls => .ok ls.flatten
    | n + 1, ls => do go n (← mergePairs ls)
  return (← go xs.length (xs.map fun x => [x])).map (·.2)

def sorted (xs : List Value) : Answer (List Value) := sortByKey (xs.map fun x => (x, x))

def order (call : Caller) (c f : Value) : Eval Value := do
  let xs ← (← c.elements).mapM fun e => do return ((← call f [e]), e)
  return .tuple (← (sortByKey xs : Answer _))

/-! ## 3. Functions from functions -/

def parameters (f : Value) : Answer Nat :=
  match f.reported? with
  | some n => .ok n
  | none => .error .noAttribute

/-- How many arguments are left open when one is fixed: one of two, two of three, else three. -/
def openAfterFixing (n : Nat) : Nat := if n == 2 then 1 else if n == 3 then 2 else 3

def rbind (f fixed : Value) : Eval Value := do
  Eval.closure (.rbind (openAfterFixing (← parameters f))) [f, fixed]

def lbind (f fixed : Value) : Eval Value := do
  Eval.closure (.lbind (openAfterFixing (← parameters f))) [f, fixed]

def powerLimit : Nat := 490

/-- The function applied `n` times. Counting down from anything but a positive whole number never
    ends and is given up at the limit. -/
def power (f : Value) : Nat → Value → Eval Value
  | 0, _ => throw .tooDeep
  | fuel + 1, n => do
    if n == 1 then return f
    let g ← power f fuel (← n.sub 1)
    Eval.closure .compose [f, g]

end PuzzlePrograms.Dsl
