import PuzzlePrograms.Random.Digest
import PuzzlePrograms.Session

/-!
# Seeds

A random source starts from a number. A whole number seeds with its absolute value, a floating point
number with its residue, and a text or bytes with a number made of the bytes and their digest; an
older scheme folds the characters into 64 bits.
-/

namespace PuzzlePrograms.Draw

attribute [local instance] natPow intPow

def residueModulus : Nat := 2 ^ (61 : Nat) - 1

def unsigned64 (i : Int) : Nat := (i % 2 ^ (64 : Nat)).toNat

/-- The residue of a number: equal for equal numbers, by `2 ^ 61 = 1`, with the sign of the number.
    The residue -1 is not used. -/
def residue (x : Float) : Int :=
  match Binary64.decode x with
  | some (m, e) =>
    let r := m.natAbs * 2 ^ (e % 61).toNat % residueModulus
    let signed : Int := if m < 0 then -(r : Int) else r
    if signed == -1 then -2 else signed
  | none => if x.isNaN then 0 else if x < 0.0 then -314159 else 314159

def folded (cs : List Nat) : Nat :=
  let first := match cs with
    | c :: _ => c * 2 ^ (7 : Nat)
    | [] => 0
  cs.foldl (fun x c => (1000003 * x ^^^ c) % 2 ^ (64 : Nat)) first ^^^ cs.length

def digested (bytes : List UInt8) : Nat := Random.Digest.number (bytes ++ Random.Digest.digest bytes)

def seedNumber (v scheme : Value) : Answer Nat :=
  match v with
  | .str s =>
    if Value.eqv scheme 1 then .ok (folded (s.toList.map Char.toNat))
    else .ok (digested s.toUTF8.toList)
  | .bytes bs =>
    if Value.eqv scheme 1 then .ok (folded (bs.map UInt8.toNat)) else .ok (digested bs)
  | .float x => .ok (unsigned64 (residue x))
  | .nothing => .ok 0
  | v =>
    match v.int? with
    | some i => .ok i.natAbs
    | none => .error (.refused .seedType)

def reseed (v scheme : Value) : Eval Unit := do
  let n ← seedNumber v scheme
  modify fun s => { s with source := { s.source with twister := .ofNat n, spare := none } }

end PuzzlePrograms.Draw
