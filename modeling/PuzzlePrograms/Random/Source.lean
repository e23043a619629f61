import PuzzlePrograms.Random.Twister
import PuzzlePrograms.Number.Binary64

/-!
# A source of random numbers

A `Source` is a Mersenne Twister with what drawing needs to remember besides. Whole numbers below a
bound are drawn by rejection: draw as many bits as the bound has until the number is below it. A
source that is asked for fractions only draws whole numbers from fractions.

`positions` draws without replacement; it is the one place that decides which elements a sample has.
-/

namespace PuzzlePrograms.Random

attribute [local instance] natPow

structure Source where
  twister : Twister
  spare : Option Float := none
  fractionsOnly : Bool := false
  deriving Inhabited

namespace Source

def ofNat (n : Nat) : Source := { twister := .ofNat n }

def fraction (s : Source) : Float × Source :=
  let (x, t) := s.twister.fraction
  (x, { s with twister := t })

def bits (k : Nat) (s : Source) : Nat × Source :=
  let (n, t) := s.twister.bits k
  (n, { s with twister := t })

/-! ## 1. Whole numbers below a bound -/

/-- How often a rejected draw is repeated. The chance that a draw is rejected is below one half. -/
def attempts : Nat := 4096

def belowByBits (n k : Nat) : Nat → Source → Nat × Source
  | 0, s => (0, s)
  | fuel + 1, s =>
    let (r, s) := s.bits k
    if r < n then (r, s) else belowByBits n k fuel s

def fractionBelow (limit : Float) : Nat → Source → Float × Source
  | 0, s => (0.0, s)
  | fuel + 1, s =>
    let (r, s) := s.fraction
    if r < limit then (r, s) else fractionBelow limit fuel s

def evenLimit (n : Nat) : Float :=
  (Binary64.ofRatio (2 ^ (53 : Nat) - 2 ^ (53 : Nat) % n : Nat) (2 ^ (53 : Nat))).getD 1.0

def stepsMod (n : Nat) (r : Float) : Nat := ((Binary64.floor (r * 9007199254740992.0)).getD 0).toNat % n

def belowByFraction (n : Nat) (s : Source) : Nat × Source :=
  if n < 2 ^ (53 : Nat) then
    let drawn := fractionBelow (evenLimit n) attempts s
    (stepsMod n drawn.1, drawn.2)
  else
    let (r, s) := s.fraction
    (((Binary64.floor (r * (Binary64.ofInt n).getD 0.0)).getD 0).toNat, s)

def width (n : Nat) : Nat := if n == 0 then 0 else n.log2 + 1

def below (n : Nat) (s : Source) : Nat × Source :=
  if s.fractionsOnly then belowByFraction n s else belowByBits n (width n) attempts s

/-! ## 2. Positions -/

def poolLimit (k : Nat) : Nat :=
  if 5 < k then
    let e := (Float.log (Float.ofNat (k * 3)) / Float.log 4.0).ceil
    21 + 4 ^ e.toUInt64.toNat
  else 21

def fromPool : Nat → Nat → Array Nat → Source → List Nat → List Nat × Source
  | 0, _, _, s, acc => (acc.reverse, s)
  | k + 1, n, pool, s, acc =>
    let (j, s) := s.below n
    let chosen := pool.getD j 0
    fromPool k (n - 1) (pool.setIfInBounds j (pool.getD (n - 1) 0)) s (chosen :: acc)

/-- Draw below `n` until the number is new; after the last attempt it is the first number that is free. -/
def freshBelow (n : Nat) (taken : List Nat) : Nat → Source → Nat × Source
  | 0, s => (((List.range n).find? fun j => !taken.contains j).getD 0, s)
  | fuel + 1, s =>
    let (j, s) := s.below n
    if taken.contains j then freshBelow n taken fuel s else (j, s)

def distinct (n : Nat) : Nat → Source → List Nat → List Nat × Source
  | 0, s, acc => (acc.reverse, s)
  | k + 1, s, acc =>
    let (j, s) := freshBelow n acc attempts s
    distinct n k s (j :: acc)

def positions (n k : Nat) (s : Source) : List Nat × Source :=
  if n ≤ poolLimit k then fromPool k n (Array.range n) s [] else distinct n k s []

/-- The order of `n` elements after a shuffle: each place from the last on is exchanged with one at
    or before it. -/
def shuffled (n : Nat) (s : Source) : List Nat × Source :=
  let rec go : Nat → Array Nat → Source → Array Nat × Source
    | 0, arr, s => (arr, s)
    | i + 1, arr, s =>
      if i == 0 then (arr, s)
      else
        let (j, s) := s.below (i + 1)
        let a := arr.getD i 0
        let b := arr.getD j 0
        go i ((arr.setIfInBounds i b).setIfInBounds j a) s
  let (arr, s) := go n (Array.range n) s
  (arr.toList, s)

end Source

end PuzzlePrograms.Random
