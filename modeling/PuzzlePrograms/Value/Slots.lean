import PuzzlePrograms.Value.Arithmetic

/-!
# The order in which colours are met

A set of colours keeps no order of its own. Up to four colours lie in eight slots: each in the slot that its number
names or, if that is taken, in one that it is sent on to from there. More colours have a slot each, so they are met in
ascending order; but which of a few colours is met first depends on which of them came first.
-/

namespace PuzzlePrograms

/-- In which order the values of a list are met, each once. -/
abbrev Arrangement := List Value → List Value

namespace Slots

/-- The first free slot on the way from a slot. -/
def free (slots : Array (Option Value)) : Nat → Nat → Nat
  | 0, i => i
  | steps + 1, i => if (slots.getD i none).isNone then i else free slots steps ((5 * i + 1) % 8)

def put (slots : Array (Option Value)) (v : Value) : Array (Option Value) :=
  if slots.toList.contains (some v) then slots
  else slots.setIfInBounds (free slots 8 ((v.int?.getD 0).toNat % 8)) (some v)

def isColor : Value → Bool
  | .int i => 0 ≤ i && i < 10
  | _ => false

/-- What is no colour is met in ascending order here. -/
def arrange : Arrangement := fun vs =>
  let met := (vs.foldl put (Array.replicate 8 none)).toList.filterMap id
  if vs.all isColor && met.length ≤ 4 then met else SortedSet.ofList vs

end Slots

end PuzzlePrograms
