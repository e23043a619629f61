import PuzzlePrograms.Number.Binary64

/-!
# The shortest decimal of a floating point number

The text of a number has the fewest digits that read back as that number, and of those the nearest to
it. `shortest?` selects the digits by exact arithmetic on whole numbers; `Layout` says how they are laid
out.
-/

namespace PuzzlePrograms.Decimal

open Binary64

attribute [local instance] natPow

/-! ## 1. Digits -/

structure Digits where
  digits : Nat
  exponent : Int
  deriving DecidableEq, Repr

def width (n : Nat) : Nat := (Nat.toDigits 10 n).length

def magnitude (n d : Nat) : Int :=
  if d ≤ n then width (n / d)
  else
    let l := width (d / n)
    if n * 10 ^ (l - 1) == d then 2 - (l : Int) else 1 - (l : Int)

def Digits.bits? (c : Digits) : Option Nat :=
  if 0 ≤ c.exponent then magnitudeOfRatio (c.digits * 10 ^ c.exponent.toNat) 1
  else magnitudeOfRatio c.digits (10 ^ (-c.exponent).toNat)

def neighbours (n d : Nat) (count : Nat) : List Digits :=
  let s : Int := count - magnitude n d
  let n' := if 0 ≤ s then n * 10 ^ s.toNat else n
  let d' := if 0 ≤ s then d else d * 10 ^ (-s).toNat
  let below := n' / d'
  if 2 * (n' % d') ≤ d' then [⟨below, -s⟩, ⟨below + 1, -s⟩] else [⟨below + 1, -s⟩, ⟨below, -s⟩]

/-- The first decimal that reads back as the number with these bits, tried with more and more
    digits. -/
def search (n d bits : Nat) : Nat → Nat → Digits
  | 0, count => ⟨n / d, count⟩
  | fuel + 1, count =>
    match (neighbours n d count).find? fun c => c.digits != 0 && c.bits? == some bits with
    | some c => c
    | none => search n d bits fuel (count + 1)

def trimmed : Nat → Digits → Digits
  | 0, c => c
  | fuel + 1, c =>
    if c.digits % 10 == 0 && c.digits != 0 then trimmed fuel ⟨c.digits / 10, c.exponent + 1⟩ else c

def shortest? (x : Float) : Option Digits :=
  match decode x with
  | some (m, e) =>
    if m == 0 then none
    else
      let n := if 0 ≤ e then m.natAbs * 2 ^ e.toNat else m.natAbs
      let d := if 0 ≤ e then 1 else 2 ^ (-e).toNat
      some (trimmed 20 (search n d (x.toBits.toNat % 2 ^ (63 : Nat)) 17 1))
  | none => none

/-! ## 2. Layout -/

structure Layout where
  /-- The decimal exponents that are written without an exponent: from the first up to, not
      including, the second. -/
  plainFrom : Int
  plainBelow : Int
  wholeTail : String
  exponentWidth : Nat

def Layout.source : Layout := ⟨-4, 16, ".0", 2⟩

def Layout.imaginary : Layout := ⟨-4, 16, "", 2⟩

def zeros (n : Nat) : String := String.ofList (List.replicate n '0')

def Layout.exponent (l : Layout) (e : Int) : String :=
  let t := toString e.natAbs
  "e" ++ (if e < 0 then "-" else "+") ++ zeros (l.exponentWidth - t.length) ++ t

def Layout.positive (l : Layout) (c : Digits) : String :=
  let ds := toString c.digits
  -- the exponent of the first digit
  let e : Int := c.exponent + ds.length - 1
  if l.plainFrom ≤ e && e < l.plainBelow then
    if 0 ≤ c.exponent then ds ++ zeros c.exponent.toNat ++ l.wholeTail
    else if 0 ≤ e then
      let k := (e + 1).toNat
      String.ofList (ds.toList.take k) ++ "." ++ String.ofList (ds.toList.drop k)
    else "0." ++ zeros (-e - 1).toNat ++ ds
  else
    match ds.toList with
    | [d] => String.ofList [d] ++ l.exponent e
    | d :: rest => String.ofList (d :: '.' :: rest) ++ l.exponent e
    | [] => ""

def Layout.text (l : Layout) (x : Float) : String :=
  if x.isNaN then "nan"
  else
    let sign := if x.toBits.toNat / 2 ^ (63 : Nat) == 1 then "-" else ""
    match shortest? x with
    | some c => sign ++ l.positive c
    | none => if x.isInf then sign ++ "inf" else sign ++ "0" ++ l.wholeTail

end PuzzlePrograms.Decimal
