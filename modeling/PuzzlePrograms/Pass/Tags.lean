import PuzzlePrograms.Pass.Visit
import PuzzlePrograms.Text.CharClass

/-!
# Displays, comprehensions and subscripts as calls

What has a notation of its own becomes a call of a function that is named for it. A list or tuple is
replaced without a visit to its elements.
-/

namespace PuzzlePrograms.Pass

open Source Expr

def curried (f : Expr) (args : List Expr) : Expr := args.foldl (fun g a => .call g [a] []) f

def clauseArgs (c : Expr) : Share (List Expr) := do
  match ← view c with
  | .clause _ t s cs => return t :: s :: cs
  | _ => return []

def subscriptCall (e i : Expr) : Share Expr := do
  let item := curried (.name "getItem") [e, i]
  match ← view i with
  | .slice l u s =>
    if !s.isAbsent then
      let l := if l.isAbsent then .const (.int 0) else l
      let u := if u.isAbsent then .const (.int (-1)) else u
      return curried (.name "getItemWithStep") [e, l, u, s]
    else
      match l, u with
      | .absent, .absent => return curried (.name "getFullCopy") [e]
      | .absent, u => return curried (.name "getItemUpTo") [e, u]
      | l, .absent => return curried (.name "getItemFrom") [e, l]
      | l, u => return curried (.name "getItemFromTo") [e, l, u]
  | _ => return item

def stringArg (s : String) (marked : Bool) : Expr := if Text.isName s then .name s else .const (.str s marked)

def tags : Rule where
  skips
    | .list _ | .tuple _ => true
    | _ => false
  finish e := do
    match e with
    | .list es => replacing e (callName "__list__" es)
    | .tuple es => replacing e (callName "__tuple__" es)
    | .set es => replacing e (callName "__set__" es)
    | .dict ks vs =>
      replacing e (callName "__dict__" (ks.zipWith (fun k v => callName "__tuple__" [k, v]) vs))
    | .comp .list x cs =>
      let args ← cs.mapM clauseArgs
      replacing e (curried (callName "__listComp__" [x]) args.flatten)
    | .subscript x i => replacing e (← subscriptCall x i)
    | .const (.str s m) => replacing e (callName "__str__" [stringArg s m])
    | .starred x => replacing e (callName "__star__" [x])
    | e => unchanged e

def generators : Rule where
  finish e := do
    match e with
    | .comp .generator x (c :: _) =>
      replacing e (curried (callName "__genExpr__" [x]) (← clauseArgs c))
    | e => unchanged e

end PuzzlePrograms.Pass
