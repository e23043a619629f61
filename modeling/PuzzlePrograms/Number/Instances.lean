/-!
# Powers and sums of whole numbers

The instances that powers and sums of whole numbers are taken with, so that they do not depend on what else is
imported.
-/

namespace PuzzlePrograms

abbrev natPow : Pow Nat Nat := instPowNat

abbrev intPow : Pow Int Nat := instPowNat

abbrev natZero : Zero Nat := Zero.ofOfNat0

abbrev intZero : Zero Int := Zero.ofOfNat0

end PuzzlePrograms
