import PuzzlePrograms.Dsl.Invoke

/-!
# Running recipes

`call` calls a function value and `eval` evaluates an expression of a recipe; the two need each other,
because a function may be written in a recipe. Both carry the depth that is left, and a run that uses
it up fails with `tooDeep`. `exec` runs a command and says how the run goes on.

Variables of the run live in the session. The parameters of functions and the names that a comprehension
binds live in a `Scope`, which a function keeps from where it was built.
-/

namespace PuzzlePrograms.Recipe

open Value Dsl

/-! ## 1. Names -/

abbrev Scope := List (String × Value)

def readVar (x : String) : Eval Value := do
  match (← get).vars.lookup x with
  | some v => return v
  | none => throw .unsetVariable

def setVar : List (String × Value) → String → Value → List (String × Value)
  | [], x, v => [(x, v)]
  | (y, w) :: rest, x, v => if y == x then (x, v) :: rest else (y, w) :: setVar rest x v

def writeVar (x : String) (v : Value) : Eval Unit := modify fun s => { s with vars := setVar s.vars x v }

def Pat.bindings : Pat → Value → Answer (List (String × Value))
  | .name x, v => .ok [(x, v)]
  | .tuple ps, v => do parts ps (← v.elements)
where
  parts : List Pat → List Value → Answer (List (String × Value))
    | [], [] => .ok []
    | p :: ps, v :: vs => do
      let here ← p.bindings v
      let rest ← parts ps vs
      return here ++ rest
    | _, _ => .error .badValue

/-! ## 2. Operators and questions -/

def BinOp.apply : BinOp → Value → Value → Answer Value
  | .add => Value.add
  | .sub => Value.sub
  | .mul => Value.mul
  | .div => Value.div
  | .floorDiv => Value.floorDiv
  | .mod => Value.mod
  | .pow => Value.pow
  | .union => Value.or
  | .inter => Value.and

def BinOp.update (o : BinOp) (a b : Value) : Answer Value :=
  match o, a with
  | .add, .list xs => do return .list (xs ++ (← b.elements))
  | o, a => o.apply a b

def UnOp.apply : UnOp → Value → Answer Value
  | .neg, v => v.neg
  | .pos, v => v.pos
  | .not, v => .ok (.bool (!v.truthy))

def CmpOp.holds : CmpOp → Value → Value → Answer Bool
  | .eq, a, b => .ok (a == b)
  | .ne, a, b => .ok (a != b)
  | .lt, a, b => related .lt a b
  | .le, a, b => related .le a b
  | .gt, a, b => related .gt a b
  | .ge, a, b => related .ge a b
  | .mem, a, b => a.isIn b
  | .notMem, a, b => do return !(← a.isIn b)
  | .isNone, a, _ =>
    match a with
    | .nothing => .ok true
    | _ => .ok false

def Query.answer (q : Query) (v : Value) (args : List Value) : Answer Value :=
  match q, v, args with
  | .position, .tuple xs, [x] | .position, .list xs, [x] => do return .int (← positionIn xs x)
  | .count, .tuple xs, [x] | .count, .list xs, [x] => .ok (.int (countIn xs x))
  | .subset, .fset xs, [c] | .subset, .mset xs, [c] => do
    let ys ← (← c.elements).mapM asElement
    return .bool (SortedSet.isSubset xs (SortedSet.ofList ys))
  | .entries, .dict kvs, [] => .ok (.tuple (kvs.map fun (k, v) => .tuple [k, v]))
  | .values, .dict kvs, [] => .ok (.tuple (kvs.map (·.2)))
  | _, _, _ => .error .noAttribute

/-! ## 3. Comprehensions -/

/-- Go through the sources of a comprehension, the first outermost, and compute something wherever
    all conditions hold. -/
def throughClauses (ev : Scope → Expr → Eval Value) : List Clause → Scope → (Scope → Eval α) → Eval (List α)
  | [], sc, k => do return [← k sc]
  | .mk p source conds :: cs, sc, k => do
    let xs ← (← ev sc source).elements
    let yss ← xs.mapM fun x => do
      let names ← (p.bindings x : Answer _)
      let sc := names ++ sc
      let ok ← conds.allM fun c => do return (← ev sc c).truthy
      if ok then throughClauses ev cs sc k else return []
    return yss.flatten

def fillBy (ev : Scope → Expr → Eval Value) (g : Gather) (e : Expr) (cs : List Clause) (sc : Scope) : Eval Value := do
  match g with
  | .list => return .list (← throughClauses ev cs sc fun sc => ev sc e)
  | .set =>
    let xs ← throughClauses ev cs sc fun sc => do (← ev sc e).asElement
    return .mset (SortedSet.ofList xs)
  | .elements => return .tuple (← Eval.element (throughClauses ev cs sc fun sc => ev sc e))

def fillTable (ev : Scope → Expr → Eval Value) (k v : Expr) (cs : List Clause) (sc : Scope) : Eval Value := do
  let kvs ← throughClauses ev cs sc fun sc => do
    let key ← (← ev sc k).asElement
    return (key, ← ev sc v)
  return .dict (kvs.foldl (fun t e => setEntry t e.1 e.2) [])

/-! ## 4. Calls and expressions -/

def conjunction (ev : Expr → Eval Value) : List Expr → Eval Value
  | [] => return .bool true
  | [e] => ev e
  | e :: es => do
    let v ← ev e
    if v.truthy then conjunction ev es else return v

def disjunction (ev : Expr → Eval Value) : List Expr → Eval Value
  | [] => return .bool false
  | [e] => ev e
  | e :: es => do
    let v ← ev e
    if v.truthy then return v else disjunction ev es

/-- A chain of comparisons; each operand is evaluated once, and none after the first that fails. -/
def comparisons (ev : Expr → Eval Value) : Value → List (CmpOp × Expr) → Eval Value
  | _, [] => return .bool true
  | a, (o, e) :: rest => do
    let b ← ev e
    let ok : Bool ← (o.holds a b : Answer Bool)
    if ok then comparisons ev b rest else return .bool false

mutual

def call : Nat → Value → List Value → Eval Value
  | 0, _, _ => throw .tooDeep
  | n + 1, f, args =>
    match f with
    | .prim p => invoke (call n) p args
    | .closure _ shape held =>
      match shape, held, args with
      | .curried, [g], args => do
        if args.length == (← parameters g) then call n g args
        else Eval.closure .pending (f :: args)
      | .pending, g :: first, [x] => call n g (first ++ [x])
      | .compose, [g, h], [x] => do call n g [← call n h [x]]
      | .chain, [h, g, f], [x] => do call n h [← call n g [← call n f [x]]]
      | .matcher, [g, target], [x] => do return .bool ((← call n g [x]) == target)
      | .rbind k, [g, fixed], args =>
        if args.length == k then call n g (args ++ [fixed]) else throw .wrongType
      | .lbind k, [g, fixed], args =>
        if args.length == k then call n g (fixed :: args) else throw .wrongType
      | .fork, [g, a, b], [x] => do
        let y ← call n a [x]
        let z ← call n b [x]
        call n g [y, z]
      | .lambda params scope body, held, args =>
        if args.length == params.length then
          eval n (params.zip args ++ scope.zip held) body
        else throw .wrongType
      | _, _, _ => throw .wrongType
    | _ => throw .wrongType

def eval : Nat → Scope → Expr → Eval Value
  | 0, _, _ => throw .tooDeep
  | n + 1, sc, e =>
    match e with
    | .nothing => return .nothing
    | .bool b => return .bool b
    | .int i => return .int i
    | .dec m k => return .float (Float.ofScientific m true k)
    | .str s => return .str s
    | .var x => readVar x
    | .arg x =>
      match sc.lookup x with
      | some v => return v
      | none => throw .unsetVariable
    | .fn p => return .prim p
    | .tuple es => do return .tuple (← es.mapM fun e => eval n sc e)
    | .list es => do return .list (← es.mapM fun e => eval n sc e)
    | .set es => do msetOf (← es.mapM fun e => eval n sc e)
    | .table kvs => do
      let kvs ← kvs.mapM fun (k, v) => do
        let k ← eval n sc k
        return (k, ← eval n sc v)
      dictOf (kvs.map fun (k, v) => .tuple [k, v])
    | .tables es => do
      let ts ← es.mapM fun e => eval n sc e
      (ts.foldlM Value.or (.dict []) : Answer Value)
    | .bin o a b => do
      let x ← eval n sc a
      let y ← eval n sc b
      (o.apply x y : Answer Value)
    | .un o a => do
      let x ← eval n sc a
      (o.apply x : Answer Value)
    | .and es => conjunction (fun e => eval n sc e) es
    | .or es => disjunction (fun e => eval n sc e) es
    | .cmp a rest => do comparisons (fun e => eval n sc e) (← eval n sc a) rest
    | .cond c t e => do
      if (← eval n sc c).truthy then eval n sc t else eval n sc e
    | .index a i => do
      let x ← eval n sc a
      let k ← eval n sc i
      x.item k
    | .slice a lo hi st => do
      let x ← eval n sc a
      let part (o : Option Expr) : Eval Value :=
        match o with
        | some e => eval n sc e
        | none => return .nothing
      let lo ← part lo
      let hi ← part hi
      let st ← part st
      x.slice lo hi st
    | .lam params body => Eval.closure (.lambda params (sc.map (·.1)) body) (sc.map (·.2))
    | .gather g e cs => fillBy (fun sc e => eval n sc e) g e cs sc
    | .gatherTable k v cs => fillTable (fun sc e => eval n sc e) k v cs sc
    | .call p args => do
      let xs ← args.mapM fun e => eval n sc e
      invoke (call n) p xs
    | .apply f args => do
      let g ← eval n sc f
      let xs ← args.mapM fun e => eval n sc e
      call n g xs
    | .spread f a => do
      let g ← eval n sc f
      let xs ← (← eval n sc a).elements
      call n g xs
    | .ask q a args => do
      let x ← eval n sc a
      let xs ← args.mapM fun e => eval n sc e
      (q.answer x xs : Answer Value)

end

def depthLimit : Nat := 2000

def callValue (f : Value) (args : List Value) : Eval Value := call depthLimit f args

def evalTop (e : Expr) : Eval Value := eval depthLimit [] e

/-! ## 5. Commands -/

inductive Signal where
  | next
  | break
  | continue
  | return (v : Value)

def changeAt (f : Value → Answer Value) : Value → List Value → Answer Value
  | v, [] => f v
  | v, i :: path => do v.setItem i (← changeAt f (← v.item i) path)

def itemAt : Value → List Value → Answer Value
  | v, [] => .ok v
  | v, i :: path => do itemAt (← v.item i) path

def change (p : Place) (f : Value → Answer Value) : Eval Unit := do
  let v ← readVar p.name
  let path ← p.path.mapM evalTop
  writeVar p.name (← (changeAt f v path : Answer Value))

def storeAt (x : Value) : Value → List Value → Answer Value
  | _, [] => .ok x
  | v, [i] => v.setItem i x
  | v, i :: path => do v.setItem i (← storeAt x (← v.item i) path)

def removeAt : Value → List Value → Answer Value
  | v, [] => .ok v
  | v, [i] => v.eraseItem i
  | v, i :: path => do v.setItem i (← removeAt (← v.item i) path)

def pushed (x v : Value) : Answer Value :=
  match v with
  | .list xs => .ok (.list (xs ++ [x]))
  | _ => .error .noAttribute

def adjoined (x v : Value) : Answer Value :=
  match v with
  | .mset xs => do return .mset (SortedSet.insert xs (← x.asElement))
  | _ => .error .noAttribute

def roundLimit : Nat := 10000000

def whileLoop (cond : Eval Bool) (body : Eval Signal) : Nat → Eval Signal
  | 0 => throw .tooDeep
  | n + 1 => do
    if ← cond then
      match ← body with
      | .break => return .next
      | .return v => return .return v
      | _ => whileLoop cond body n
    else return .next

def forLoop (body : Value → Eval Signal) : List Value → Eval Signal
  | [] => return .next
  | x :: xs => do
    match ← body x with
    | .break => return .next
    | .return v => return .return v
    | _ => forLoop body xs

def assign (p : Pat) (v : Value) : Eval Unit := do
  for (x, w) in ← (p.bindings v : Answer _) do writeVar x w

mutual

def exec : Stmt → Eval Signal
  | .set x e => do
    writeVar x (← evalTop e)
    return .next
  | .unpack p e => do
    assign p (← evalTop e)
    return .next
  | .store p e => do
    let x ← evalTop e
    let v ← readVar p.name
    let path ← p.path.mapM evalTop
    writeVar p.name (← (storeAt x v path : Answer Value))
    return .next
  | .update p o e => do
    let v ← readVar p.name
    let path ← p.path.mapM evalTop
    let old ← (itemAt v path : Answer Value)
    let x ← evalTop e
    let new ← (o.update old x : Answer Value)
    writeVar p.name (← (storeAt new v path : Answer Value))
    return .next
  | .push p e => do
    let x ← evalTop e
    change p (pushed x)
    return .next
  | .adjoin p e => do
    let x ← evalTop e
    change p (adjoined x)
    return .next
  | .delete p => do
    let v ← readVar p.name
    let path ← p.path.mapM evalTop
    writeVar p.name (← (removeAt v path : Answer Value))
    return .next
  | .shuffle x => do
    writeVar x (← shuffled (← readVar x))
    return .next
  | .block body => execAll body
  | .ite c t e => do
    if (← evalTop c).truthy then execAll t else execAll e
  | .for p e body => do
    let xs ← (← evalTop e).elements
    forLoop (fun x => do
      assign p x
      execAll body) xs
  | .while c body =>
    whileLoop (do return (← evalTop c).truthy) (execAll body) roundLimit
  | .break => return .break
  | .continue => return .continue
  | .return e => do return .return (← evalTop e)

def execAll : List Stmt → Eval Signal
  | [] => return .next
  | s :: ss => do
    match ← exec s with
    | .next => execAll ss
    | r => return r

end

end PuzzlePrograms.Recipe

namespace PuzzlePrograms

def Recipe.run (r : Recipe) (lb ub : Value) : Eval Value := do
  modify fun s => { s with vars := [("diff_lb", lb), ("diff_ub", ub)] }
  match ← Recipe.execAll r with
  | .return v => return v
  | _ => return .nothing

end PuzzlePrograms
