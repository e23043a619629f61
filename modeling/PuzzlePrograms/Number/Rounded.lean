import PuzzlePrograms.Number.Shortest

/-!
# Rounded decimals

A number with a fixed number of places after the point, and a number with a fixed number of digits and an
exponent. Both round the exact value, a tie to the even digit.
-/

namespace PuzzlePrograms.Decimal

open Binary64

attribute [local instance] natPow

def padded (width n : Nat) : String :=
  let ds := toString n
  zeros (width - ds.length) ++ ds

def signOf (x : Float) : String := if x.toBits.toNat / 2 ^ (63 : Nat) == 1 then "-" else ""

def unboundedText (x : Float) : String := if x.isNaN then "nan" else signOf x ++ "inf"

def fixed (places : Nat) (x : Float) : String :=
  match decode x with
  | none => unboundedText x
  | some (m, e) =>
    let n := m.natAbs * 10 ^ places
    let k := if 0 ≤ e then n * 2 ^ e.toNat else roundDiv n (2 ^ (-e).toNat)
    let whole := toString (k / 10 ^ places)
    signOf x ++ (if places == 0 then whole
      else whole ++ "." ++ padded places (k % 10 ^ places))

def scientific (places : Nat) (x : Float) : String :=
  match decode x with
  | none => unboundedText x
  | some (m, e) =>
    let (digits, exponent) : Nat × Int :=
      if m == 0 then (0, 0)
      else
        let n := if 0 ≤ e then m.natAbs * 2 ^ e.toNat else m.natAbs
        let d := if 0 ≤ e then 1 else 2 ^ (-e).toNat
        let k := magnitude n d - 1
        let s : Int := places - k
        let r := if 0 ≤ s then roundDiv (n * 10 ^ s.toNat) d else roundDiv n (d * 10 ^ (-s).toNat)
        if r == 10 ^ (places + 1) then (10 ^ places, k + 1) else (r, k)
    signOf x ++ toString (digits / 10 ^ places)
      ++ (if places == 0 then "" else "." ++ padded places (digits % 10 ^ places))
      ++ "e" ++ (if exponent < 0 then "-" else "+") ++ padded 2 exponent.natAbs

end PuzzlePrograms.Decimal
