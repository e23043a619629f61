import PuzzlePrograms.Recipe.Term

/-!
# Values of puzzle programs

Puzzle programs work on dynamic values: numbers, vectors, grids, patches, tables and functions all
have the one type `Value`. A set keeps its elements sorted and without repetition (see
`PuzzlePrograms.Value.Order`), so a set has one form and one order of traversal.

A function is either a primitive or a closure. A closure's `Shape` says what it does when called;
the values it holds are kept beside the shape, and a serial number tells closures apart.
-/

namespace PuzzlePrograms

/-! ## 1. Shapes of functions -/

inductive Shape where
  | curried
  | pending
  | compose
  | chain
  | matcher
  | rbind (n : Nat)
  | lbind (n : Nat)
  | fork
  | lambda (params scope : List String) (body : Recipe.Expr)

def Shape.reported : Shape → Nat
  | .curried => 0
  | .rbind n | .lbind n => n
  | .lambda ps _ _ => ps.length
  | _ => 1

/-! ## 2. Values -/

inductive Value where
  | nothing
  | bool (b : Bool)
  | int (i : Int)
  | float (x : Float)
  | str (s : String)
  | bytes (bs : List UInt8)
  | tuple (xs : List Value)
  | list (xs : List Value)
  | fset (xs : List Value)
  | mset (xs : List Value)
  | dict (kvs : List (Value × Value))
  | prim (p : Primitive)
  | closure (serial : Nat) (shape : Shape) (held : List Value)

namespace Value

instance : Inhabited Value := ⟨.nothing⟩

instance : Coe Int Value := ⟨.int⟩

instance : Coe Bool Value := ⟨.bool⟩

instance (n : Nat) : OfNat Value n := ⟨.int n⟩

def pair (i j : Int) : Value := .tuple [.int i, .int j]

def int? : Value → Option Int
  | .int i => some i
  | .bool b => some (if b then 1 else 0)
  | _ => none

def isInt : Value → Bool
  | .int _ | .bool _ => true
  | _ => false

def isTuple : Value → Bool
  | .tuple _ => true
  | _ => false

def set? : Value → Option (List Value)
  | .fset xs | .mset xs => some xs
  | _ => none

/-- The number of parameters a function reports; `none` for what is no function, or reports none. -/
def reported? : Value → Option Nat
  | .prim p => p.reported?
  | .closure _ s _ => some s.reported
  | _ => none

end Value

end PuzzlePrograms
