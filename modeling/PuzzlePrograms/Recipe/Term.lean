import PuzzlePrograms.Primitive

/-!
# Recipes: the programs that draw puzzle examples

A recipe is a list of commands over named variables. Expressions read variables, call primitives and
build containers; commands set variables, change a container in place, branch and loop. A recipe is
data: this file fixes its shape, and `PuzzlePrograms.Recipe.Run` says what it does.

Two kinds of names are kept apart. A `var` is a variable of the run and is looked up when it is
used, also inside a function that was built earlier; an `arg` is bound by the enclosing function or
comprehension and keeps the value it had when the function was built.
-/

namespace PuzzlePrograms.Recipe

/-! ## 1. Operators -/

inductive BinOp where
  | add | sub | mul | div | floorDiv | mod | pow | union | inter
  deriving DecidableEq, Repr

inductive UnOp where
  | neg | pos | not
  deriving DecidableEq, Repr

inductive CmpOp where
  | eq | ne | lt | le | gt | ge | mem | notMem | isNone
  deriving DecidableEq, Repr

inductive Query where
  | position | count | subset | entries | values
  deriving DecidableEq, Repr

inductive Gather where
  | list | set | elements
  deriving DecidableEq, Repr

/-! ## 2. Expressions -/

inductive Pat where
  | name (x : String)
  | tuple (ps : List Pat)
  deriving Repr

mutual

inductive Expr where
  | nothing
  | bool (b : Bool)
  | int (i : Int)
  | dec (digits places : Nat)
  | str (s : String)
  | var (x : String)
  | arg (x : String)
  | fn (p : Primitive)
  | tuple (es : List Expr)
  | list (es : List Expr)
  | set (es : List Expr)
  | table (kvs : List (Expr × Expr))
  | tables (es : List Expr)
  | bin (o : BinOp) (a b : Expr)
  | un (o : UnOp) (a : Expr)
  | and (es : List Expr)
  | or (es : List Expr)
  | cmp (a : Expr) (rest : List (CmpOp × Expr))
  | cond (c t e : Expr)
  | index (a i : Expr)
  | slice (a : Expr) (lower upper step : Option Expr)
  | lam (params : List String) (body : Expr)
  | gather (g : Gather) (e : Expr) (cs : List Clause)
  | gatherTable (k v : Expr) (cs : List Clause)
  | call (p : Primitive) (args : List Expr)
  | apply (f : Expr) (args : List Expr)
  | spread (f a : Expr)
  | ask (q : Query) (a : Expr) (args : List Expr)

inductive Clause where
  | mk (p : Pat) (source : Expr) (conds : List Expr)

end

/-! ### How terms are written

A plain string stands for the variable of that name, a numeral for the whole number and a truth value
for itself. The operators have their usual signs: `+` also joins sequences, `-` also takes elements out
of a set, and `/` is the whole quotient. -/

instance : Coe String Pat := ⟨.name⟩

instance : Coe String Expr := ⟨.var⟩

instance (n : Nat) : OfNat Expr n := ⟨.int n⟩

instance : Coe Bool Expr := ⟨.bool⟩

instance : Add Expr := ⟨.bin .add⟩

instance : Sub Expr := ⟨.bin .sub⟩

instance : Mul Expr := ⟨.bin .mul⟩

instance : Div Expr := ⟨.bin .floorDiv⟩

instance : Mod Expr := ⟨.bin .mod⟩

namespace Expr

abbrev div (a b : Expr) : Expr := .bin .div a b

abbrev pow (a b : Expr) : Expr := .bin .pow a b

abbrev union (a b : Expr) : Expr := .bin .union a b

abbrev inter (a b : Expr) : Expr := .bin .inter a b

abbrev grade (lo hi : Expr) : Expr := .call .unifint [.var "diff_lb", .var "diff_ub", .tuple [lo, hi]]

end Expr

/-! ## 3. Commands -/

structure Place where
  name : String
  path : List Expr := []

instance : Coe String Place := ⟨fun x => ⟨x, []⟩⟩

inductive Stmt where
  | set (x : String) (e : Expr)
  | unpack (p : Pat) (e : Expr)
  | store (p : Place) (e : Expr)
  | update (p : Place) (o : BinOp) (e : Expr)
  | push (p : Place) (e : Expr)
  | adjoin (p : Place) (e : Expr)
  | delete (p : Place)
  | shuffle (x : String)
  | block (body : List Stmt)
  | ite (c : Expr) (t e : List Stmt)
  | for (p : Pat) (e : Expr) (body : List Stmt)
  | while (c : Expr) (body : List Stmt)
  | break
  | continue
  | return (e : Expr)

abbrev Stmt.finish (input output : Expr) : Stmt := .return (.table [(.str "input", input), (.str "output", output)])

end PuzzlePrograms.Recipe

namespace PuzzlePrograms

/-- A program that draws one example from the random source, given the bounds on difficulty. -/
abbrev Recipe := List Recipe.Stmt

abbrev Recipes := List (String × Recipe)

end PuzzlePrograms
