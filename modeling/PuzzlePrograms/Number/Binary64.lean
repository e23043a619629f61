import PuzzlePrograms.Number.Instances

/-!
# Exact arithmetic on 64-bit floating point numbers

A finite floating point number is `m · 2 ^ e` for whole numbers `m` and `e`. Everything here goes
through that form (`decode`), so that rounding, comparison and division are stated on whole numbers:

* `ofRatio` rounds a quotient to the nearest representable number, a tie to the even one;
* `floor`, `ceil`, `trunc` and `roundEven` turn a number into a whole number;
* `compareInt` compares with a whole number of any size without rounding it.
-/

namespace PuzzlePrograms.Binary64

attribute [local instance] natPow intPow

/-! ## 1. The exact form -/

def decode (x : Float) : Option (Int × Int) :=
  let b := x.toBits.toNat
  let negative := b / 2 ^ (63 : Nat) == 1
  let ex : Nat := b / 2 ^ (52 : Nat) % 2048
  let frac : Nat := b % 2 ^ (52 : Nat)
  if ex == 2047 then none
  else
    let m : Nat := if ex == 0 then frac else frac + 2 ^ (52 : Nat)
    let e : Int := if ex == 0 then -1074 else (ex : Int) - 1075
    some (if negative then -(m : Int) else m, e)

def withSign (negative : Bool) (magnitude : Nat) : Float :=
  Float.ofBits (UInt64.ofNat (magnitude + (if negative then 2 ^ (63 : Nat) else 0)))

def roundDiv (n d : Nat) : Nat :=
  let q := n / d
  let r := n % d
  if 2 * r < d then q else if d < 2 * r then q + 1 else if q % 2 == 0 then q else q + 1

/-- The bits of the magnitude nearest to `n / d`, for `n` and `d` positive; `none` if it is too
    large to represent. -/
def magnitudeOfRatio (n d : Nat) : Option Nat :=
  -- the exponent of the last place, so that the quotient has 53 bits
  let guess : Int := (Nat.log2 n : Int) - Nat.log2 d - 52
  let fits (e : Int) : Bool :=
    -- does n / d < 2 ^ (e + 53) hold?
    if 0 ≤ e + 53 then n < d * 2 ^ (e + 53).toNat else n * 2 ^ (-(e + 53)).toNat < d
  let e := if fits (guess - 1) then guess - 1 else guess
  let e := max e (-1074)
  let m := if 0 ≤ e then roundDiv n (d * 2 ^ e.toNat) else roundDiv (n * 2 ^ (-e).toNat) d
  -- rounding up to 2 ^ 53 carries into the exponent by itself
  let bits := if e == -1074 then m else m - 2 ^ (52 : Nat) + (e + 1075).toNat * 2 ^ (52 : Nat)
  if bits < 2047 * 2 ^ (52 : Nat) then some bits else none

/-- The representable number nearest to `n / d`, a tie to the even one; `none` if it is too large.
    The divisor is positive. -/
def ofRatio (n : Int) (d : Nat) : Option Float :=
  if n == 0 then some 0.0
  else (magnitudeOfRatio n.natAbs d).map (withSign (n < 0))

def ofInt (i : Int) : Option Float := ofRatio i 1

/-! ## 2. Whole numbers from numbers -/

def floor (x : Float) : Option Int :=
  (decode x).map fun (m, e) => if 0 ≤ e then m * 2 ^ e.toNat else Int.fdiv m (2 ^ (-e).toNat)

def ceil (x : Float) : Option Int :=
  (decode x).map fun (m, e) =>
    if 0 ≤ e then m * 2 ^ e.toNat else -Int.fdiv (-m) (2 ^ (-e).toNat)

def trunc (x : Float) : Option Int :=
  (decode x).map fun (m, e) => if 0 ≤ e then m * 2 ^ e.toNat else Int.tdiv m (2 ^ (-e).toNat)

def roundEven (x : Float) : Option Int :=
  (decode x).map fun (m, e) =>
    if 0 ≤ e then m * 2 ^ e.toNat
    else
      let a := roundDiv m.natAbs (2 ^ (-e).toNat)
      if m < 0 then -(a : Int) else a

/-! ## 3. Comparison and remainder -/

def compareInt (x : Float) (i : Int) : Option Ordering :=
  match decode x with
  | some (m, e) =>
    if 0 ≤ e then some (compare (m * 2 ^ e.toNat) i)
    else some (compare m (i * 2 ^ (-e).toNat))
  | none => if x.isNaN then none else some (if x > 0.0 then .gt else .lt)

def remainder (x y : Float) : Float :=
  match decode x, decode y with
  | some (m, e), some (n, f) =>
    if n == 0 then 0.0 / 0.0
    else
      let g := min e f
      let r := Int.tmod (m * 2 ^ (e - g).toNat) (n * 2 ^ (f - g).toNat)
      let z := if 0 ≤ g then ofRatio (r * 2 ^ g.toNat) 1 else ofRatio r (2 ^ (-g).toNat)
      match z with
      | some z => if r == 0 && x.toBits >>> 63 == 1 then -0.0 else z
      | none => 0.0 / 0.0
  | some _, none => if y.isNaN then y else x
  | none, _ => 0.0 / 0.0

def signedZero (x : Float) : Float := if x.toBits >>> 63 == 1 then -0.0 else 0.0

/-- The floor of the quotient and the remainder with the sign of `y`, for `y` other than zero. -/
def floorDivMod (x y : Float) : Float × Float :=
  let r := remainder x y
  let d := (x - r) / y
  let (r, d) :=
    if r != 0.0 then (if (y < 0.0) != (r < 0.0) then (r + y, d - 1.0) else (r, d))
    else (signedZero y, d)
  let q :=
    if d != 0.0 then
      let f := d.floor
      if d - f > 0.5 then f + 1.0 else f
    else signedZero (x / y)
  (q, r)

end PuzzlePrograms.Binary64
