import PuzzlePrograms.Draw.Real

/-!
# The binomial distribution

The number of successes in `n` trials with chance `p` each. Few expected successes are counted by the
gaps between them; for many, a number near the mean is drawn and accepted or rejected. A chance above
one half is treated as the failures of the opposite chance.
-/

namespace PuzzlePrograms.Draw

open Value

/-- Count successes by the gaps between them; `c` is the logarithm of the chance of failure. -/
def countGaps (n c : Float) : Nat → Int → Int → Eval Int
  | 0, count, _ => return count
  | fuel + 1, count, reached => do
    let gap := (← Checked.log2 (← fraction)) / c
    match Binary64.floor gap with
    | none => throw .overflow
    | some g =>
      let reached := reached + g + 1
      match Binary64.compareInt n reached with
      | some .lt => return count
      | _ => countGaps n c fuel (count + 1) reached

structure Squeeze where
  n : Float
  p : Float
  spread : Float
  b : Float
  a : Float
  centre : Float
  limit : Float

def Squeeze.of (n p : Float) : Squeeze :=
  let spread := (n * p * (1.0 - p)).sqrt
  let b := 1.15 + 2.53 * spread
  { n, p, spread, b
    a := -0.0873 + 0.0248 * b + 0.01 * p
    centre := n * p + 0.5
    limit := 0.92 - 4.2 / b }

def Squeeze.accepts (s : Squeeze) (k : Int) (v us : Float) : Answer Bool := do
  let alpha := (2.83 + 5.1 / s.b) * s.spread
  let odds ← Checked.log (s.p / (1.0 - s.p))
  let m : Int := (Binary64.floor ((s.n + 1.0) * s.p)).getD 0
  let float (i : Int) : Float := (Binary64.ofInt i).getD 0.0
  let h := (← Checked.logGamma (float (m + 1))) + (← Checked.logGamma (s.n - float m + 1.0))
  let v := v * (alpha / (s.a / (us * us) + s.b))
  let left ← Checked.log v
  let right := h - (← Checked.logGamma (float (k + 1))) -
    (← Checked.logGamma (s.n - float k + 1.0)) + float (k - m) * odds
  return left ≤ right

def Squeeze.draw (s : Squeeze) : Nat → Eval Int
  | 0 => return 0
  | fuel + 1 => do
    let u := (← fraction) - 0.5
    let us := 0.5 - u.abs
    match Binary64.floor ((2.0 * s.a / us + s.b) * u + s.centre) with
    | none => throw .overflow
    | some k =>
      if k < 0 || Binary64.compareInt s.n k == some .lt then s.draw fuel
      else
        let v ← fraction
        if us ≥ 0.07 && v ≤ s.limit then return k
        if ← s.accepts k v us then return k else s.draw fuel

def successes (n p : Float) : Eval Int := do
  if n * p < 10.0 then
    let c ← Checked.log2 (1.0 - p)
    if c == 0.0 then return 0
    countGaps n c Random.Source.attempts 0 0
  else if n * p ≥ 10.0 then (Squeeze.of n p).draw Random.Source.attempts
  else throw .assertion

def binomial (n p : Value) : Eval Value := do
  let trials ← real n
  if trials < 0.0 then throw (.refused .trialsNegative)
  let chance ← real p
  if chance ≤ 0.0 || chance ≥ 1.0 then
    if chance == 0.0 then return 0
    if chance == 1.0 then return n
    throw (.refused .chanceOutside)
  if trials == 1.0 then return .int (if (← fraction) < chance then 1 else 0)
  if 0.5 < chance then n.sub (.int (← successes trials (1.0 - chance)))
  else return .int (← successes trials chance)

end PuzzlePrograms.Draw
