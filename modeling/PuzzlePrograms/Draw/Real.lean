import PuzzlePrograms.Number.Checked
import PuzzlePrograms.Session

/-!
# Distributions on the real line

Draws from the usual distributions. Where a distribution is drawn by rejection, fractions are drawn
until a pair is accepted. Parameters may be numbers of either kind; what is done to them, and when, is
part of the result: a parameter that is no number is only noticed where it is first used.
-/

namespace PuzzlePrograms.Draw

open Value

/-! ## 1. Fractions -/

def fraction : Eval Float := Eval.draw Random.Source.fraction

def complement : Eval Float := do return 1.0 - (← fraction)

def real (v : Value) : Answer Float := do (← v.number).toFloat

def accepted (draw : Eval (Option Float)) : Nat → Eval Float
  | 0 => return 0.0
  | n + 1 => do
    match ← draw with
    | some x => return x
    | none => accepted draw n

def placed (location scale : Value) (x : Float) : Answer Value := do
  location.add (← (Value.float x).mul scale)

def fullAngle : Float := 6.283185307179586

def halfAngle : Float := 3.141592653589793

/-! ## 2. Triangular, normal, exponential -/

/-- Between `low` and `high`, most often near `mode`; with nothing for `mode`, near the middle. -/
def triangular (low high mode : Value) : Eval Value := do
  let u ← fraction
  let place : Option Float ← match mode with
    | .nothing => pure (some 0.5)
    | mode => do
      let above ← mode.sub low
      match above.div (← high.sub low) with
      | .ok c => pure (some (← real c))
      | .error .divisionByZero => pure none
      | .error e => throw e
  match place with
  | none => return low
  | some c =>
    let (u, c, low, high) := if c < u then (1.0 - u, 1.0 - c, high, low) else (u, c, low, high)
    let width ← high.sub low
    low.add (← width.mul (.float (← Checked.sqrt (u * c))))

def normalFactor : Float := 4.0 * Float.exp (-0.5) / Float.sqrt 2.0

def normal (location scale : Value) : Eval Value := do
  let z ← accepted (do
    let u ← fraction
    let v ← complement
    let z := normalFactor * (u - 0.5) / v
    return if z * z / 4.0 ≤ -(← Checked.log v) then some z else none) Random.Source.attempts
  placed location scale z

def gauss (location scale : Value) : Eval Value := do
  let spare ← modifyGet fun s => (s.source.spare, { s with source := { s.source with spare := none } })
  let z ← match spare with
    | some z => pure z
    | none => do
      let angle := (← fraction) * fullAngle
      let radius ← Checked.sqrt (-2.0 * (← Checked.log (← complement)))
      modify fun s => { s with source := { s.source with spare := some (angle.sin * radius) } }
      pure (angle.cos * radius)
  placed location scale z

def logNormal (location scale : Value) : Eval Value := do
  return .float (← Checked.exp (← real (← normal location scale)))

def exponential (rate : Value) : Eval Value := do
  (Value.float (-(← Checked.log (← complement)))).div rate

/-! ## 3. On the circle -/

def vonMises (mean concentration : Value) : Eval Value := do
  let k ← real concentration
  if k ≤ 1e-6 then return .float (fullAngle * (← fraction))
  let s := 0.5 / k
  let r := s + (← Checked.sqrt (1.0 + s * s))
  let z ← accepted (do
    let z := ((halfAngle * (← fraction))).cos
    let d := z / (r + z)
    let u ← fraction
    return if u < 1.0 - d * d || u ≤ (1.0 - d) * d.exp then some z else none)
    Random.Source.attempts
  let q := 1.0 / r
  let turn ← Checked.acos ((q + z) / (1.0 + q * z))
  let angle ← if 0.5 < (← fraction) then mean.add (.float turn) else mean.sub (.float turn)
  angle.mod (.float fullAngle)

/-! ## 4. Gamma and beta -/

def gammaLarge (shape : Float) : Eval Float := do
  let inverse ← Checked.sqrt (2.0 * shape - 1.0)
  let low := shape - Float.log 4.0
  let slope := shape + inverse
  accepted (do
    let u ← fraction
    if !(1e-7 < u && u < 0.9999999) then return none
    let w ← complement
    let v := (← Checked.log (u / (1.0 - u))) / inverse
    let x := shape * (← Checked.exp v)
    let z := u * u * w
    let r := low + slope * v - x
    if r + (1.0 + Float.log 4.5) - 4.5 * z ≥ 0.0 then return some x
    return if r ≥ (← Checked.log z) then some x else none) Random.Source.attempts

def gammaSmall (shape : Float) : Eval Float :=
  accepted (do
    let u ← fraction
    let e : Float := 2.718281828459045
    let b := (e + shape) / e
    let p := b * u
    let x ← if p ≤ 1.0 then Checked.pow p (1.0 / shape)
      else do pure (-(← Checked.log ((b - p) / shape)))
    let w ← fraction
    if 1.0 < p then return if w ≤ (← Checked.pow x (shape - 1.0)) then some x else none
    return if w ≤ (← Checked.exp (-x)) then some x else none) Random.Source.attempts

def gammaUnit (shape : Float) : Eval Float := do
  if 1.0 < shape then gammaLarge shape
  else if shape == 1.0 then return -(← Checked.log (← complement))
  else gammaSmall shape

def gamma (shape scale : Value) : Eval Value := do
  let a ← real shape
  if a ≤ 0.0 then throw (.refused .gammaParameters)
  let b ← real scale
  if b ≤ 0.0 then throw (.refused .gammaParameters)
  return .float ((← gammaUnit a) * b)

def beta (first second : Value) : Eval Value := do
  let y ← real (← gamma first (.float 1.0))
  if y == 0.0 then return .float 0.0
  let z ← real (← gamma second (.float 1.0))
  return .float (← Checked.div y (y + z))

/-! ## 5. Pareto and Weibull -/

def pareto (shape : Value) : Eval Value := do
  let u ← complement
  return .float (← Checked.pow u (← real (← (Value.float (-1.0)).div shape)))

def weibull (scale shape : Value) : Eval Value := do
  let u ← complement
  let x ← Checked.pow (-(← Checked.log u)) (← real (← (Value.float 1.0).div shape))
  scale.mul (.float x)

end PuzzlePrograms.Draw
