import PuzzlePrograms.Dsl.Draw

/-!
# Whole numbers, bits and bytes

Draws whose results are whole numbers or bytes. An argument that cannot be used is refused before
anything is drawn.
-/

namespace PuzzlePrograms.Draw

attribute [local instance] natPow intPow

def below (n : Int) : Eval Int := do
  return (← Eval.draw (Random.Source.below n.toNat) : Nat)

def range (start stop step : Value) : Eval Value := do
  let lo ← start.integer
  match stop with
  | .nothing =>
    match step with
    | .int 1 =>
      if 0 < lo then return .int (← below lo) else throw (.refused .rangeEmpty)
    | _ => throw (.refused .rangeStopMissing)
  | _ =>
    let width := (← stop.integer) - lo
    let stride ← step.integer
    if stride == 1 then
      if 0 < width then return .int (lo + (← below width))
      else throw (.refused (.rangeBetween (Dsl.showWhole start) (Dsl.showWhole stop)))
    else if stride == 0 then throw (.refused .rangeStepZero)
    else
      let n := if 0 < stride then (width + stride - 1).fdiv stride else (width + stride + 1).fdiv stride
      if n ≤ 0 then
        throw (.refused (.rangeStepped (Dsl.showWhole start) (Dsl.showWhole stop) (Dsl.showWhole step)))
      else return .int (lo + stride * (← below n))

def bitLimit : Int := 2 ^ (31 : Nat)

def bitNumber (k : Value) : Eval Nat := do
  let n ← k.integer
  if bitLimit ≤ n || n < -bitLimit then throw .overflow
  if n < 0 then throw .badValue
  Eval.draw (Random.Source.bits n.toNat)

def bits (k : Value) : Eval Value := do return .int (← bitNumber k)

def lowBytes : Nat → Nat → List UInt8
  | 0, _ => []
  | width + 1, n => UInt8.ofNat n :: lowBytes width (n / 256)

def bytes (n : Value) : Eval Value := do
  let r ← bitNumber (← n.mul 8)
  return .bytes (lowBytes (← n.integer).toNat r)

end PuzzlePrograms.Draw
