import PuzzlePrograms.Failure

/-!
# Real functions with their domains

The elementary functions on floating point numbers, each with the failure outside its domain or beyond
the largest number, and the logarithm of the gamma function.
-/

namespace PuzzlePrograms.Checked

/-! ## 1. Elementary functions -/

def bounded (xs : List Float) (y : Float) : Answer Float :=
  if y.isInf && xs.all Float.isFinite then .error .overflow else .ok y

def log (x : Float) : Answer Float := if x ≤ 0.0 then .error .badValue else .ok x.log

def log2 (x : Float) : Answer Float := if x ≤ 0.0 then .error .badValue else .ok x.log2

def exp (x : Float) : Answer Float := bounded [x] x.exp

def sqrt (x : Float) : Answer Float := if x < 0.0 then .error .badValue else .ok x.sqrt

def acos (x : Float) : Answer Float := if 1.0 < x.abs then .error .badValue else .ok x.acos

def div (x y : Float) : Answer Float := if y == 0.0 then .error .divisionByZero else .ok (x / y)

def pow (x y : Float) : Answer Float :=
  if x == 0.0 && y < 0.0 then .error .divisionByZero else bounded [x, y] (Float.pow x y)

/-! ## 2. The logarithm of the gamma function -/

def gammaShift : Float := 6.024680040776729583740234375

/-- Coefficients of a rational function, numerator and denominator, from the constant term up. -/
def gammaCoefficients : List (Float × Float) :=
  [(23531376880.410759688572007674451636754734846804940, 0.0),
   (42919803642.649098768957899047001988850926355848959, 39916800.0),
   (35711959237.355668049440185451547166705960488635843, 120543840.0),
   (17921034426.037209699919755754458931112671403265390, 150917976.0),
   (6039542586.3520280050642916443072979210699388420708, 105258076.0),
   (1439720407.3117216736632230727949123939715485786772, 45995730.0),
   (248874557.86205415651146038641322942321632125127801, 13339535.0),
   (31426415.585400194380614231628318205362874684987640, 2637558.0),
   (2876370.6289353724412254090516208496135991145378768, 357423.0),
   (186056.26539522349504029498971604569928220784236328, 32670.0),
   (8071.6720023658162106380029022722506138218516325024, 1925.0),
   (210.82427775157934587250973392071336271166969580291, 66.0),
   (2.5066282746310002701649081771338373386264310793408, 1.0)]

/-- The rational function at `x`; for large `x` as one in `1 / x`, so that no power overflows. -/
def gammaRatio (x : Float) : Float :=
  let (num, den) :=
    if x < 5.0 then
      gammaCoefficients.reverse.foldl (fun (n, d) (a, b) => (n * x + a, d * x + b)) (0.0, 0.0)
    else gammaCoefficients.foldl (fun (n, d) (a, b) => (n / x + a, d / x + b)) (0.0, 0.0)
  num / den

def logGamma (x : Float) : Answer Float :=
  if x.isNaN then .ok x
  else if x.isInf then .ok x.abs
  else if x ≤ 0.0 then .error .badValue
  else if x == 1.0 || x == 2.0 then .ok 0.0
  else if x < 1e-20 then .ok (-x.log)
  else
    let r := (gammaRatio x).log - gammaShift
    .ok (r + (x - 0.5) * ((x + gammaShift - 0.5).log - 1.0))

end PuzzlePrograms.Checked
