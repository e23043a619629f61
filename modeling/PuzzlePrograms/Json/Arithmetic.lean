import PuzzlePrograms.Json.Access

/-!
# Arithmetic on plain values

Sums, products and quotients of numbers. A truth value counts as a number, and a whole number together with
a float as a float. A string or list times a whole number is repeated.
-/

namespace PuzzlePrograms.Json

def float? : Json → Option Float
  | .float x => some x
  | j => j.whole?.bind Binary64.ofInt

def arithmetic (onWhole : Int → Int → Int) (onFloat : Float → Float → Float) (a b : Json) : Conversion Json :=
  match a.whole?, b.whole? with
  | some i, some j => return .int (onWhole i j)
  | _, _ =>
    match a.float?, b.float? with
    | some x, some y => return .float (onFloat x y)
    | _, _ => fail .wrongType

def add (a b : Json) : Conversion Json := arithmetic (· + ·) (· + ·) a b

def repeated (j : Json) (n : Int) : Conversion Json :=
  match j with
  | .str s => return .str (String.join (List.replicate n.toNat s))
  | .arr xs => return .arr (List.replicate n.toNat xs).flatten
  | _ => fail .wrongType

def mul (a b : Json) : Conversion Json :=
  match a, b with
  | .str _, b | .arr _, b =>
    match b.whole? with
    | some n => a.repeated n
    | none => fail .wrongType
  | a, .str _ | a, .arr _ =>
    match a.whole? with
    | some n => b.repeated n
    | none => fail .wrongType
  | a, b => arithmetic (· * ·) (· * ·) a b

def quotient (a b : Int) : Conversion Float :=
  if b == 0 then fail .divisionByZero
  else
    match Binary64.ofRatio (if b < 0 then -a else a) b.natAbs with
    | some x => return x
    | none => fail .overflow

end PuzzlePrograms.Json
