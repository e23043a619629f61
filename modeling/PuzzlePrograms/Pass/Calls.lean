import PuzzlePrograms.Pass.Operators
import PuzzlePrograms.Pass.Tags

/-!
# Calls with one argument

* `methods`: a call of a method is a call of a function with the object as first argument;
* `nestedDisplays`: tuples and lists among arguments, and what is left of arithmetic;
* `currying`: functions of one parameter, calls with one argument;
* `subscripts`: subscripts that are left.
-/

namespace PuzzlePrograms.Pass

open Source Expr

def methods : Rule where
  finish e := do
    match e with
    | .call f as ks =>
      match ← view f with
      | .attr x m =>
        let as ← as.mapM take
        replacing e (.call (.name (m ++ "_M")) (x :: as) ks)
      | _ => unchanged e
    | e => unchanged e

def displayCall (e : Expr) : Share Expr := do
  match ← view e with
  | .tuple es => return callName "__tuple__" es
  | .list es => return callName "__list__" es
  | _ => return e

def nestedDisplays : Rule where
  keepsParts := isArithmetic
  finish e := do
    match e with
    | .call f as ks =>
      let as ← as.mapM (replaceAt · displayCall)
      let ks ← ks.mapM (changeAt · fun k => do
        match k with
        | .keyword x v => return .keyword x (← displayCall v)
        | k => return k)
      unchanged (.call f as ks)
    | e => arithmeticCall e

def nestLambdas (ps : List Expr) (body : Expr) : Expr := ps.foldr (fun p b => .lambda (oneParam p) b) body

def plainRest : Expr → Expr
  | .params po as (.param x _) ko kd kr ds =>
    .params po (as ++ [.param x .absent]) .absent ko kd kr ds
  | e => e

def currying : Rule where
  finish e := do
    match e with
    | .lambda ps b =>
      let ps ← changeAt ps (return plainRest ·)
      match ← view ps with
      | .params _ as _ _ _ _ _ =>
        if as.length ≤ 1 then unchanged (.lambda ps b)
        else replacing (.lambda ps b) (nestLambdas as b)
      | _ => unchanged (.lambda ps b)
    | .call f as ks =>
      if as.length ≤ 1 then unchanged (.call f as ks)
      else
        let taken ← as.mapM take
        replacing (.call f as ks) (curried f taken)
    | e => unchanged e

def subscripts : Rule where
  finish
    | .subscript x i => replacing (.subscript x i) (curried (.name "getItem") [x, i])
    | e => unchanged e

end PuzzlePrograms.Pass
