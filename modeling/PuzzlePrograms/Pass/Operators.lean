import PuzzlePrograms.Pass.Visit

/-!
# Operators as calls

* `operators`: sums, differences, products and floored quotients, and all comparisons. A comparison is
  replaced without a visit to its operands. A chain of comparisons becomes a conjunction in which each
  middle operand stands twice;
* `connectives`: `and` and `or`, bracketed to the right;
* `bits`: operators on bits;
* `conditionals`: conditional expressions.
-/

namespace PuzzlePrograms.Pass

open Source Expr

def arithmeticName? : BinOp → Option String
  | .add => some "add"
  | .sub => some "sub"
  | .mul => some "mul"
  | .floorDiv => some "floordiv"
  | _ => none

def comparisonName : CmpOp → String
  | .eq => "eq"
  | .ne => "neq"
  | .lt => "lt"
  | .le => "lte"
  | .gt => "gt"
  | .ge => "gte"
  | .mem => "elem"
  | .notMem => "nelem"
  | .is => "isComp"
  | .isNot => "isNot"

def isArithmetic : Expr → Bool
  | .binOp _ o _ => (arithmeticName? o).isSome
  | _ => false

def arithmeticCall (e : Expr) : Share Outcome :=
  match e with
  | .binOp l o r =>
    match arithmeticName? o with
    | some f => replacing e (callName f [l, r])
    | none => unchanged e
  | e => unchanged e

def comparisonCalls : Expr → List (CmpOp × Expr) → List Expr
  | _, [] => []
  | l, (o, r) :: rest => callName (comparisonName o) [l, r] :: comparisonCalls r rest

def labelButLast : List Expr → Share (List Expr)
  | [] => return []
  | [e] => return [e]
  | e :: es => do
    let e ← label e
    return e :: (← labelButLast es)

def operators : Rule where
  skips
    | .compare _ _ _ => true
    | _ => false
  keepsParts := isArithmetic
  finish e :=
    match e with
    | .compare l [o] [r] => replacing e (callName (comparisonName o) [l, r])
    | .compare l os rs => do
      let rs ← labelButLast rs
      replacing e (.boolOp .and (comparisonCalls l (os.zip rs)))
    | e => arithmeticCall e

def connectiveName : BoolOp → String
  | .and => "andOp"
  | .or => "orOp"

def nestRight (f : String) : List Expr → Expr
  | [] => .absent
  | [a] => a
  | a :: as => callName f [a, nestRight f as]

def connectives : Rule where
  finish
    | .boolOp o vs => replacing (.boolOp o vs) (nestRight (connectiveName o) vs)
    | e => unchanged e

def bitName? : BinOp → Option String
  | .bitOr => some "bitOr"
  | .bitAnd => some "bitAnd"
  | .bitXor => some "bitXor"
  | .lshift => some "lshift"
  | .rshift => some "rshift"
  | _ => none

def bits : Rule where
  finish e :=
    match e with
    | .binOp l o r =>
      match bitName? o with
      | some f => replacing e (callName f [l, r])
      | none => unchanged e
    | .unaryOp .invert x => replacing e (callName "__bitNot__" [x])
    | e => unchanged e

def conditionals : Rule where
  finish
    | .ifExp c t e => replacing (.ifExp c t e) (callName "ifElse" [c, t, e])
    | e => unchanged e

end PuzzlePrograms.Pass
