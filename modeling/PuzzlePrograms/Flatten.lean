import PuzzlePrograms.Source.Module
import PuzzlePrograms.Source.StmtPrinter
import PuzzlePrograms.Source.Traverse

/-!
# Flattening: a program as one expression

Statements become one expression. Each statement is written around its continuation, the expression for
what comes after it: an assignment calls a function of one parameter, a choice is a conditional
expression, and a loop is a function that calls itself through a fixed point combinator.

* `constructLambda` is the call of a function with named parameters, the building block of all else;
* `flatBody` goes through a block from its end to its start, since a statement is written around the text
  of what follows it;
* a `break` or `continue` stands for the continuation that its loop has set (`LoopCtx`).

The text of an expression is not the shortest one: see `exprText`.
-/

namespace PuzzlePrograms.Flatten

open Source

/-! ## 1. Calls of functions -/

def constructLambda (vals : List (String × String)) (body : String) : String :=
  "(lambda " ++ String.intercalate ", " (vals.map (·.1)) ++ ": " ++ body ++ ")("
    ++ String.intercalate ", " (vals.map (·.2)) ++ ")"

def combinator : String := "(lambda f: (lambda x: x(x))(lambda y: f(lambda *args: y(y)(*args))))"

def provideY (body : String) : String := constructLambda [("_Y", combinator)] body

def wrapGlobals (body : String) : String := constructLambda [("__g", "globals()")] body

/-! ## 2. State -/

inductive Fault where
  | outsideLoop
  | unknownOperator
  | unwritable (u : Unwritable)
  | source (f : Source.Fault)
  deriving DecidableEq, Repr

structure State where
  needsY : Bool := false
  loopNo : Nat := 1
  subscripts : Nat := 0
  deriving DecidableEq, Repr

abbrev Flat := EStateM Fault State

abbrev Cont := Option String

def Cont.text (c : Cont) : String := c.getD "None"

structure LoopCtx where
  onBreak : Cont
  onContinue : Cont

structure Env where
  loop : Option LoopCtx := none
  classes : List String := []

def ownClass : String := "self.__class__"

def renameCall (classes : List String) : Expr → Expr
  | .call (.name c) as ks => .call (.name (if classes.contains c then ownClass else c)) as ks
  | e => e

def liftWritten (x : Written α) : Flat α :=
  match x with
  | .ok a => pure a
  | .error u => throw (.unwritable u)

def liftSource (x : Except Source.Fault α) : Flat α :=
  match x with
  | .ok a => pure a
  | .error f => throw (.source f)

/-! ## 3. Expressions -/

def binaryText (o : BinOp) : Flat String :=
  match o with
  | .matMul => throw .unknownOperator
  | o => return o.text

def plainText (classes : List String) (e : Expr) : Flat String := liftWritten (e.mapDeep (renameCall classes)).text

def inner (s : String) : String := String.ofList ((s.toList.drop 1).dropLast)

def inOrder (xs : List (Flat String)) : Flat (List String) := xs.mapM id

def optionalText (e : Expr) (text : Flat String) : Flat String := if e.isAbsent then return "" else text

mutual

/-- The text of an expression. Operations and comparisons are always put in brackets, but neither
    `and` and `or` nor what they join is; what has no rule here is written by the printer. -/
def exprText (classes : List String) : Expr → Flat String
  | .const c => return c.text
  | .name x => return x
  | .keyword x v => do
    let t ← exprText classes v
    return x.getD "None" ++ "=" ++ t
  | .call f as ks => do
    let ts ← inOrder (exprTexts classes as)
    let us ← inOrder (exprTexts classes ks)
    let g ← exprText classes f
    let g := match f with
      | .name c => if classes.contains c then ownClass else g
      | _ => g
    return g ++ "(" ++ String.intercalate ", " (ts ++ us) ++ ")"
  | .list es => do
    return "[" ++ String.intercalate ", " (← inOrder (exprTexts classes es)) ++ "]"
  | .tuple es => do
    let ts ← inOrder (exprTexts classes es)
    return "(" ++ String.intercalate ", " ts ++ (if ts.length == 1 then "," else "") ++ ")"
  | .set es => do
    return "\x7b" ++ String.intercalate ", " (← inOrder (exprTexts classes es)) ++ "\x7d"
  | .dict ks vs => do
    let entries := (exprTexts classes ks).zip (exprTexts classes vs)
    let ts ← entries.mapM fun (k, v) => do
      let a ← k
      let b ← v
      return a ++ ": " ++ b
    return "\x7b" ++ String.intercalate ", " ts ++ "\x7d"
  | .slice l u s => do
    let a ← optionalText l (exprText classes l)
    let b ← optionalText u (exprText classes u)
    let c ← optionalText s (exprText classes s)
    return a ++ ":" ++ b ++ ":" ++ c
  | .subscript e i => do
    modify fun s => { s with subscripts := s.subscripts + 1 }
    let a ← exprText classes e
    let b ← exprText classes i
    match i with
    | .tuple _ => return a ++ "[" ++ inner b ++ "]"
    | _ => return a ++ "[" ++ b ++ "]"
  | .attr e x => do
    let a ← exprText classes e
    return a ++ "." ++ x
  | .binOp l o r => do
    let a ← exprText classes l
    let t ← binaryText o
    let b ← exprText classes r
    return "(" ++ a ++ " " ++ t ++ " " ++ b ++ ")"
  | .ifExp c t e => do
    let a ← exprText classes t
    let b ← exprText classes c
    let d ← exprText classes e
    return "(" ++ a ++ " if " ++ b ++ " else " ++ d ++ ")"
  | .compare l ops rs => do
    let ts ← inOrder (exprTexts classes rs)
    let a ← exprText classes l
    let tail := String.join ((ops.zip ts).map fun (o, t) => " " ++ o.text ++ " " ++ t)
    return "(" ++ a ++ tail ++ ")"
  | .boolOp o vs => do
    return String.intercalate (" " ++ o.text ++ " ") (← inOrder (exprTexts classes vs))
  | .unaryOp o e => do
    let a ← exprText classes e
    match e with
    | .name _ | .const _ => return o.text ++ a
    | _ => return o.text ++ "(" ++ a ++ ")"
  | e => plainText classes e

def exprTexts (classes : List String) : List Expr → List (Flat String)
  | [] => []
  | e :: es => exprText classes e :: exprTexts classes es

end

/-! ## 4. Simple statements -/

def bindTargets (targets source : String) (cont : Cont) : String :=
  "[" ++ cont.text ++ " for " ++ targets ++ " in [" ++ source ++ "]][0]"

def assignText (classes : List String) (targets : List Expr) (value : Expr) (cont : Cont) : Flat String := do
  match targets with
  | [t] =>
    match t with
    | .attr _ _ | .subscript _ _ | .tuple _ | .list _ =>
      let a ← exprText classes t
      let b ← exprText classes value
      return bindTargets a b cont
    | t =>
      let a ← exprText classes t
      let b ← exprText classes value
      return constructLambda [(a, b)] cont.text
  | ts =>
    let as ← inOrder (exprTexts classes ts)
    let b ← exprText classes value
    return bindTargets (String.intercalate ", " as)
      ("[" ++ b ++ "] * " ++ toString as.length) cont

def raiseText (classes : List String) (e : Expr) : Flat String := do
  return "(_ for _ in []).throw(" ++ (← exprText classes e) ++ ")"

def assertText (classes : List String) (test msg : Expr) (cont : Cont) : Flat String := do
  let m ← (do
    if msg.isAbsent then return ""
    return "(" ++ (← exprText classes msg) ++ ")")
  let raised ← liftSource (module? ("raise AssertionError" ++ m))
  let t ← exprText classes test
  let e ← (do
    match raised with
    | .raise e _ :: _ => raiseText classes e
    | _ => throw (.source .invalid))
  return "(" ++ cont.text ++ " if " ++ t ++ " else " ++ e ++ ")"

def putName (name value : String) : List (String × String) → List (String × String)
  | [] => [(name, value)]
  | (k, v) :: rest =>
    if k == name then (k, value) :: rest else (k, v) :: putName name value rest

def uniqueNames (xs : List (String × String)) : List (String × String) :=
  xs.foldl (fun acc (k, v) => putName k v acc) []

def headName (x : String) : String := String.ofList (x.toList.takeWhile (· != '.'))

def nameList (xs : List String) : String := "[" ++ String.intercalate ", " (xs.map Text.quoted) ++ "]"

def importedName (x : String × Option String) : String :=
  match x.2 with
  | some a => a
  | none => x.1

def counts : Stmt → Bool
  | .expr (.call _ _ _) => true
  | .expr _ => false
  | _ => true

def simpleText (env : Env) (s : Stmt) (cont : Cont) : Flat Cont := do
  let cs := env.classes
  match s with
  | .assign ts v => return some (← assignText cs ts v cont)
  | .augAssign t o v => return some (← assignText cs [t] (.binOp t o v) cont)
  | .expr e =>
    let call ← exprText cs e
    match cont with
    | none => return some call
    | some "" => return some call
    | some c => return some ("[" ++ call ++ ", " ++ c ++ "][-1]")
  | .pass => return cont
  | .break =>
    match env.loop with
    | some l => return l.onBreak
    | none => throw .outsideLoop
  | .continue =>
    match env.loop with
    | some l => return l.onContinue
    | none => throw .outsideLoop
  | .return e => if e.isAbsent then return some "None" else return some (← exprText cs e)
  | .raise e _ => return some (← raiseText cs e)
  | .assert t m => return some (← assertText cs t m cont)
  | .importModule xs =>
    let vals := xs.map fun x => (headName (importedName x), "__import__('" ++ x.1 ++ "')")
    return some (constructLambda (uniqueNames vals) cont.text)
  | .importFrom m xs _ =>
    let source := "__import__('" ++ m.getD "None" ++ "', \x7b\x7d, \x7b\x7d, "
      ++ nameList (xs.map (·.1)) ++ ")"
    let vals := xs.map fun x => (importedName x, "_mod." ++ x.1)
    return some (constructLambda [("_mod", source)]
      (constructLambda (uniqueNames vals) cont.text))
  | s => return some (← liftWritten (s.mapDeep (renameCall cs)).text)

/-! ## 5. Loops -/

def hasPlace (e : Expr) : Bool :=
  (e.withDepth 0).any fun (_, x) =>
    match x with
    | .attr _ _ | .subscript _ _ => true
    | _ => false

def plainTargets (ss : List Stmt) : List Expr :=
  ss.filterMap fun
    | .assign [t] _ =>
      match t with
      | .attr _ _ | .subscript _ _ | .tuple _ => none
      | t => some t
    | _ => none

def changedTargets (ss : List Stmt) : List Expr :=
  ss.filterMap fun
    | .augAssign t _ _ =>
      match t with
      | .attr _ _ | .subscript _ _ => none
      | t => some t
    | _ => none

def tupleTargets (ss : List Stmt) : List Expr :=
  ss.flatMap fun
    | .assign (.tuple es :: _) _ => es.filter (!hasPlace ·)
    | _ => []

def sortedTexts (xs : List String) : List String := (xs.mergeSort fun a b => !(b < a)).eraseReps

def assignedTexts (classes : List String) (ss : List Stmt) : Flat (List String) := do
  let all := allStmts ss
  let xs ← inOrder (exprTexts classes (plainTargets all))
  let ys ← inOrder (exprTexts classes (changedTargets all))
  let zs ← inOrder (exprTexts classes (tupleTargets all))
  return sortedTexts (xs ++ ys ++ zs)

def nextItem (n : Nat) : String := "next(_items" ++ toString n ++ ", _term" ++ toString n ++ ")"

/-- A loop. `stmts` are the statements whose names it carries along, `test` is its condition, `target`
    the name that holds the next item of a loop over items, and `body` writes the body around the call
    of the next round. -/
def loopText (classes : List String) (stmts : List Stmt) (test : Flat String)
    (target : Option String) (cont : Cont) (body : LoopCtx → Cont → Flat Cont) : Flat String := do
  modify fun s => { s with needsY := true }
  let assigned ← assignedTexts classes stmts
  let args := String.intercalate ", " assigned
  let test ← test
  let n := (← get).loopNo
  let id := "_loop" ++ toString n
  let call := id ++ "(" ++ args ++ ")"
  let next := match target with
    | some t => constructLambda [(t, nextItem n)] call
    | none => call
  modify fun s => { s with loopNo := n + 1 }
  let b ← body ⟨cont, some next⟩ (some call)
  let fixed := "_Y(lambda " ++ id ++ ": (lambda " ++ args ++ ": (" ++ b.text ++ ") if " ++ test
    ++ " else " ++ cont.text ++ "))"
  return constructLambda
    (assigned.map fun v => (v, v ++ " if \"" ++ v ++ "\" in dir() else None"))
    (constructLambda [(id, fixed)] call)

def simpleTexts (env : Env) (ss : List Stmt) (cont : Cont) : Flat Cont :=
  ss.foldrM (fun s c => if counts s then simpleText env s c else return c) cont

/-! ## 6. Functions and classes -/

/-- The parameters of a function with their defaults. Only plain positional parameters are kept. -/
def paramText (names defaults : List String) : String :=
  let first := (names.length : Int) - defaults.length
  let shown := names.zipIdx.map fun (x, i) =>
    if first ≤ (i : Int) then x ++ "=" ++ defaults.getD ((i : Int) - first).toNat "" else x
  String.intercalate ", " shown

def paramName : Expr → String
  | .param x _ => x
  | _ => ""

def calledIn (s : Stmt) : List Expr :=
  s.breadthFirst.filterMap fun
    | .call f _ _ => some f
    | _ => none

def anyCalled (classes : List String) (x : String) : List Expr → Flat Bool
  | [] => return false
  | f :: fs => do
    let t ← exprText classes f
    let t := match f with
      | .name c => if classes.contains c then ownClass else t
      | _ => t
    if t == x then return true else anyCalled classes x fs

/-- A function as an expression. `owner` is the class it is a method of; `body` writes its body among the
    given classes. -/
def functionText (env : Env) (s : Stmt) (name : String) (params : Expr) (owner : Option String)
    (body : List String → Flat Cont) : Flat String := do
  let (args, defaults) := match params with
    | .params _ as _ _ _ _ ds => (as.map paramName, ds)
    | _ => ([], [])
  let ds ← inOrder (exprTexts env.classes defaults)
  let ps := paramText args ds
  let called := calledIn s
  let classes ← (do
    match owner with
    | none => return env.classes
    | some c =>
      let _ ← inOrder (exprTexts env.classes called)
      return c :: env.classes)
  let head := "lambda" ++ (if ps.isEmpty then "" else " ") ++ ps ++ ": "
  let isInit := match owner with
    | some c => (c ++ "." ++ name).endsWith "__init__"
    | none => false
  if isInit then
    let b ← body classes
    return head ++ "[" ++ b.text ++ ", None][-1]"
  else if ← anyCalled classes name called then
    modify fun s => { s with needsY := true }
    let b ← body classes
    return "_Y(lambda " ++ name ++ ": (lambda " ++ ps ++ ": " ++ b.text ++ "))"
  else
    let b ← body classes
    return head ++ b.text

def decoratedText (classes : List String) (decorators : List Expr) (f : String) : Flat String :=
  decorators.reverse.foldlM (fun t d => do return (← exprText classes d) ++ "(" ++ t ++ ")") f

def classText (classes : List String) (name : String) (bases : List Expr)
    (methods : List (String × String)) (cont : Cont) : Flat String := do
  let bs ← inOrder (exprTexts classes bases)
  let table := String.intercalate ", "
    ((uniqueNames methods).map fun (k, v) => Text.quoted k ++ ": " ++ v)
  let type := "type(\"" ++ name ++ "\", (" ++ String.join (bs.map (· ++ ", ")) ++ "), \x7b" ++ table
    ++ "\x7d)"
  return constructLambda [(name, type)] cont.text

/-! ## 7. Statements -/

mutual

def flatStmt (env : Env) (cont : Cont) : Stmt → Flat Cont
  | .if c body orelse => do
    let a ← flatBody env cont body
    let t ← exprText env.classes c
    let b ← flatBody env cont orelse
    return some ("(" ++ a.text ++ " if " ++ t ++ " else " ++ b.text ++ ")")
  | .while c body orelse => do
    return some (← loopText env.classes (body ++ orelse) (exprText env.classes c) none cont
      fun l k => flatBody { env with loop := some l } k body)
  | .for false t e body _ => do
    let n := (← get).loopNo
    let target := "_targ" ++ toString n
    let bind ← exprText env.classes t
    let pre ← liftSource (module? (bind ++ " = " ++ target))
    let post ← liftSource (module? (target ++ " = " ++ nextItem n))
    let source ← exprText env.classes e
    let test := "(" ++ target ++ " is not _term" ++ toString n ++ ")"
    let loop ← loopText env.classes (pre ++ body ++ post) (return test) (some target) cont fun l k => do
        let env := { env with loop := some l }
        let k ← simpleTexts env post k
        let k ← flatBody env k body
        simpleTexts env pre k
    return some (constructLambda [("_term" ++ toString n, "[]"),
      ("_items" ++ toString n, "iter(" ++ source ++ ")")]
      (constructLambda [(target, nextItem n)] loop))
  | .functionDef false x ps body ds r => do
    let f ← functionText env (.functionDef false x ps body ds r) x ps none
      fun classes => flatBody { env with classes := classes } none body
    return some (← decoratedText env.classes ds f)
  | .classDef x bs _ body _ => do
    let methods ← flatMethods env x body
    return some (← classText env.classes x bs methods cont)
  | s => simpleText env s cont

def flatBody (env : Env) (cont : Cont) : List Stmt → Flat Cont
  | [] => return cont
  | s :: ss => do
    let k ← flatBody env cont ss
    if counts s then flatStmt env k s else return k

def flatMethods (env : Env) (owner : String) : List Stmt → Flat (List (String × String))
  | [] => return []
  | .functionDef false x ps body ds r :: ss => do
    let f ← functionText env (.functionDef false x ps body ds r) x ps (some owner)
      fun classes => flatBody { env with classes := classes } none body
    return (x, f) :: (← flatMethods env owner ss)
  | _ :: ss => flatMethods env owner ss

end

def flatModule (body : List Stmt) : Flat String := do
  modify fun s => { subscripts := s.subscripts }
  let t ← flatBody {} none body
  if (← get).needsY then return provideY t.text else return t.text

/-! ## 8. A second time -/

mutual

/-- A statement after it has been flattened once: calls of a class inside its own methods have become
    calls of the own class for good. -/
def settle : Stmt → Stmt
  | .if c body orelse => .if c (settleAll body) (settleAll orelse)
  | .while c body orelse => .while c (settleAll body) orelse
  | .for false t e body orelse => .for false t e (settleAll body) orelse
  | .functionDef false x ps body ds r => .functionDef false x ps (settleAll body) ds r
  | .classDef x bs ks body ds => .classDef x bs ks (settleMethods x body) ds
  | s => s

def settleAll : List Stmt → List Stmt
  | [] => []
  | s :: ss => settle s :: settleAll ss

def settleMethods (owner : String) : List Stmt → List Stmt
  | [] => []
  | .functionDef false x ps body ds r :: ss =>
    (Stmt.functionDef false x ps (settleAll body) ds r).mapDeep (renameCall [owner]) :: settleMethods owner ss
  | s :: ss => s :: settleMethods owner ss

end

/-! ## 9. A flattener that is used again -/

structure Flattener where
  body : Option (List Stmt) := none
  state : State := {}

def Flattener.read (f : Flattener) (text : String) : Except Source.Fault Flattener := do
  return { f with body := some (← module? text) }

def Flattener.unparse (f : Flattener) : Except Fault String × Flattener :=
  match f.body with
  | none => (.ok "Unparse unsuccessful.", f)
  | some body =>
    match (flatModule body).run f.state with
    | .ok t s => (.ok t, { body := some (settleAll body), state := s })
    | .error e s => (.error e, { body := some (settleAll body), state := s })

def flatten (text : String) : Except Fault String :=
  match ({} : Flattener).read text with
  | .ok f => f.unparse.1
  | .error e => .error (.source e)

end PuzzlePrograms.Flatten
