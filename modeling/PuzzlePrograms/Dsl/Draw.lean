import PuzzlePrograms.Session
import PuzzlePrograms.Dsl.Number

/-!
# Drawing values

Draws of the puzzle vocabulary from the session's random source. A draw that cannot be made is refused
in words; it then takes nothing from the source.
-/

namespace PuzzlePrograms.Dsl

open Value

def showWhole : Value → String
  | .bool b => if b then "True" else "False"
  | .int i => toString i
  | _ => ""

def uniform (a b : Value) : Eval Value := do
  let d ← b.sub a
  let x ← Eval.draw Random.Source.fraction
  a.add (← d.mul (.float x))

def randint (a b : Value) : Eval Value := do
  let stop ← b.add 1
  let lo ← a.integer
  let hi ← stop.integer
  if lo < hi then
    let k ← Eval.draw (Random.Source.below (hi - lo).toNat)
    return .int (lo + k)
  else throw (.refused (.rangeBetween (showWhole a) (showWhole stop)))

def choice (seq : Value) : Eval Value := do
  let n ← seq.size
  if n == 0 then throw (.refused .emptyChoice)
  let k ← Eval.draw (Random.Source.below n)
  seq.item (.int k)

def isSequence : Value → Bool
  | .tuple _ | .list _ | .str _ | .bytes _ => true
  | _ => false

def sample (population k : Value) : Eval Value := do
  if !isSequence population then throw (.refused .populationNotSequence)
  let xs ← population.elements
  let enough : Bool ← related .le 0 k
  let fits : Bool ← if enough then related .le k (.int xs.length) else pure false
  if !fits then throw (.refused .sampleSize)
  let n ← k.integer
  let ps ← Eval.draw (Random.Source.positions xs.length n.toNat)
  let arr := xs.toArray
  return .list (ps.map fun p => arr.getD p .nothing)

def shuffled (v : Value) : Eval Value := do
  let n ← v.size
  match v with
  | .list xs =>
    let ps ← Eval.draw (Random.Source.shuffled n)
    let arr := xs.toArray
    return .list (ps.map fun p => arr.getD p .nothing)
  | v =>
    if n < 2 then return v
    else
      let _ ← Eval.draw (Random.Source.below n)
      throw .wrongType

/-- A whole number between bounds, by a difficulty drawn between `lb` and `ub` that is put on
    record. -/
def unifint (lb ub bounds : Value) : Eval Value := do
  let (a, b) ← bounds.parts2
  let d ← uniform lb ub
  match d with
  | .float x => modify fun s => { s with drawn := x :: s.drawn }
  | _ => pure ()
  let r ← (← a.add (← (← b.sub a).mul d)).rounded
  let m := if (← (related .gt r a : Answer Bool)) then r else a
  return if (← (related .lt b m : Answer Bool)) then b else m

end PuzzlePrograms.Dsl
