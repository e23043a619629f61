/-!
# Terms of Python source text

What a Python module says, without layout. Expressions, and the parts of expressions that are not
expressions themselves (keyword arguments, clauses of comprehensions, parameters), have one type, so that
a pass over a term has one shape: `Expr.children` lists what a term holds, in the order in which a pass
visits it. Where a part may be left out, `Expr.absent` stands for it.
-/

namespace PuzzlePrograms.Source

/-! ## 1. Constants and operators -/

inductive Constant where
  | none
  | bool (b : Bool)
  | int (i : Int)
  | float (x : Float)
  | imaginary (x : Float)
  | str (s : String) (marked : Bool)
  | bytes (bs : List UInt8)
  | ellipsis
  deriving Inhabited, Repr

inductive BoolOp where
  | and
  | or
  deriving DecidableEq, Repr

inductive BinOp where
  | add | sub | mul | matMul | div | mod | pow | lshift | rshift
  | bitOr | bitXor | bitAnd | floorDiv
  deriving DecidableEq, Repr

inductive UnaryOp where
  | invert
  | not
  | plus
  | minus
  deriving DecidableEq, Repr

inductive CmpOp where
  | eq | ne | lt | le | gt | ge | is | isNot | mem | notMem
  deriving DecidableEq, Repr

inductive Gathering where
  | list
  | set
  | generator
  deriving DecidableEq, Repr

/-! ## 2. Expressions -/

inductive Expr where
  | absent
  | const (c : Constant)
  | name (x : String)
  | boolOp (o : BoolOp) (values : List Expr)
  | named (target value : Expr)
  | binOp (left : Expr) (o : BinOp) (right : Expr)
  | unaryOp (o : UnaryOp) (operand : Expr)
  | lambda (params body : Expr)
  | ifExp (test body orelse : Expr)
  | dict (keys values : List Expr)
  | set (elements : List Expr)
  | list (elements : List Expr)
  | tuple (elements : List Expr)
  | comp (kind : Gathering) (element : Expr) (clauses : List Expr)
  | dictComp (key value : Expr) (clauses : List Expr)
  | await (value : Expr)
  | yield (value : Expr)
  | yieldFrom (value : Expr)
  | compare (left : Expr) (ops : List CmpOp) (rights : List Expr)
  | call (f : Expr) (args keywords : List Expr)
  | formatted (value : Expr) (conversion : Option Char) (spec : Expr)
  | joined (parts : List Expr)
  | attr (value : Expr) (name : String)
  | subscript (value index : Expr)
  | starred (value : Expr)
  | slice (lower upper step : Expr)
  | keyword (name : Option String) (value : Expr)
  | clause (isAsync : Bool) (target source : Expr) (conds : List Expr)
  | param (name : String) (note : Expr)
  | params (posOnly args : List Expr) (rest : Expr) (kwOnly kwDefaults : List Expr) (kwRest : Expr)
      (defaults : List Expr)
  | shared (k : Nat)
  deriving Inhabited, Repr

namespace Expr

def children : Expr → List Expr
  | .absent | .const _ | .name _ | .shared _ => []
  | .boolOp _ vs => vs
  | .named t v => [t, v]
  | .binOp l _ r => [l, r]
  | .unaryOp _ e => [e]
  | .lambda ps b => [ps, b]
  | .ifExp c t e => [c, t, e]
  | .dict ks vs => ks ++ vs
  | .set es | .list es | .tuple es | .joined es => es
  | .comp _ e cs => e :: cs
  | .dictComp k v cs => k :: v :: cs
  | .await e | .yield e | .yieldFrom e | .starred e => [e]
  | .compare l _ rs => l :: rs
  | .call f as ks => f :: as ++ ks
  | .formatted v _ s => [v, s]
  | .attr e _ => [e]
  | .subscript e i => [e, i]
  | .slice l u s => [l, u, s]
  | .keyword _ v => [v]
  | .clause _ t s cs => t :: s :: cs
  | .param _ a => [a]
  | .params po as r ko kd kr ds => po ++ as ++ [r] ++ ko ++ kd ++ [kr] ++ ds

def isAbsent : Expr → Bool
  | .absent => true
  | _ => false

def callName (f : String) (args : List Expr) : Expr := .call (.name f) args []

def oneParam (p : Expr) : Expr := .params [] [p] .absent [] [] .absent []

end Expr

/-! ## 3. Statements -/

inductive Pattern where
  | value (e : Expr)
  | constant (c : Constant)
  | sequence (ps : List Pattern)
  | star (name : Option String)
  | mapping (keys : List Expr) (ps : List Pattern) (rest : Option String)
  | cls (c : Expr) (ps : List Pattern) (names : List String) (named : List Pattern)
  | bind (p : Option Pattern) (name : Option String)
  | or (ps : List Pattern)
  deriving Inhabited, Repr

inductive Stmt where
  | functionDef (isAsync : Bool) (name : String) (params : Expr) (body : List Stmt)
      (decorators : List Expr) (returns : Expr)
  | classDef (name : String) (bases keywords : List Expr) (body : List Stmt)
      (decorators : List Expr)
  | return (value : Expr)
  | delete (targets : List Expr)
  | assign (targets : List Expr) (value : Expr)
  | augAssign (target : Expr) (o : BinOp) (value : Expr)
  | annAssign (target note value : Expr) (simple : Bool)
  | for (isAsync : Bool) (target source : Expr) (body orelse : List Stmt)
  | while (test : Expr) (body orelse : List Stmt)
  | if (test : Expr) (body orelse : List Stmt)
  | with (isAsync : Bool) (items : List (Expr × Expr)) (body : List Stmt)
  | match (subject : Expr) (cases : List Stmt)
  | case (p : Pattern) (guard : Expr) (body : List Stmt)
  | raise (exc cause : Expr)
  | try (isStar : Bool) (body handlers orelse final : List Stmt)
  | handler (type : Expr) (name : Option String) (body : List Stmt)
  | assert (test msg : Expr)
  | importModule (names : List (String × Option String))
  | importFrom (module : Option String) (names : List (String × Option String)) (level : Nat)
  | global (names : List String)
  | nonlocal (names : List String)
  | expr (value : Expr)
  | pass
  | break
  | continue
  deriving Inhabited, Repr

end PuzzlePrograms.Source
