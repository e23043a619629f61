import PuzzlePrograms.Dsl.Draw

/-!
# Draws with replacement

Elements of a sequence, each drawn anew, all with the same chance or by weights. Weights are given one
for each element, or summed up from the first on.
-/

namespace PuzzlePrograms.Draw

open Value

def sumsFrom (sum : Value) : List Value → Answer (List Value)
  | [] => .ok [sum]
  | x :: xs => do
    let next ← sum.add x
    return sum :: (← sumsFrom next xs)

def runningSums (weights : Value) : Answer Value := do
  match weights.elements with
  | .ok [] => return .list []
  | .ok (x :: xs) => return .list (← sumsFrom x xs)
  | .error e =>
    if weights.isInt then .error (.refused (.choicesCount (Dsl.showWhole weights))) else .error e

def placeAbove (sums : Value) (x : Float) : Nat → Nat → Nat → Answer Nat
  | 0, lo, _ => .ok lo
  | fuel + 1, lo, hi => do
    if lo < hi then
      let mid := (lo + hi) / 2
      if ← related .lt (.float x) (← sums.item (.int mid)) then placeAbove sums x fuel lo mid
      else placeAbove sums x fuel (mid + 1) hi
    else return lo

def times (k : Value) (draw : Eval Value) : Eval Value := do
  let n ← k.integer
  return .list (← (List.range n.toNat).mapM fun _ => draw)

def byRunningSums (population sums k : Value) (n : Nat) : Eval Value := do
  if (← sums.size) != n then throw (.refused .weightsLength)
  let total ← (← (← sums.item (.int (-1))).add (.float 0.0)).number
  let total ← total.toFloat
  if total ≤ 0.0 then throw (.refused .weightsTotal)
  if !total.isFinite then throw (.refused .weightsInfinite)
  times k do
    let x ← Eval.draw Random.Source.fraction
    let place ← placeAbove sums (x * total) n 0 (n - 1)
    population.item (.int place)

def choices (population weights cumulative k : Value) : Eval Value := do
  let n ← population.size
  match cumulative, weights with
  | .nothing, .nothing =>
    times k do
      let x ← Eval.draw Random.Source.fraction
      let place := (Binary64.floor (x * Float.ofNat n)).getD 0
      population.item (.int place)
  | .nothing, weights => byRunningSums population (← runningSums weights) k n
  | sums, .nothing => byRunningSums population sums k n
  | _, _ => throw (.refused .weightsAndCumulative)

end PuzzlePrograms.Draw
