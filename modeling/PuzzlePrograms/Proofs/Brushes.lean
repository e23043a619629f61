import PuzzlePrograms.Proofs.Components
import PuzzlePrograms.Proofs.Patches

/-!
# What painting shows

Painting goes through an object cell by cell. With one colour for each place the order does not matter: a cell of the
grid shows the colour that the object has there, and its own where the object has none. Painting only on the most
frequent colour is painting the part of the object that lies there, and filling is painting a patch that has been given
one colour.
-/

namespace PuzzlePrograms

open Value Dsl Patch
open List hiding transpose

variable {h w : Nat} {f g : Int → Int → Int} {l : List (Int × Loc)} {P : Patch} {O : Finset (Int × Loc)} {b c : Int}
  {q : Value → Answer (Option Value)} {o : Option Int}

/-! ## 1. Objects with one colour for each place -/

theorem overlaid_self (S : Finset Loc) : overlaid f S f = f := funext₂ fun i j => by simp [overlaid]

end PuzzlePrograms
