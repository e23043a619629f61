import PuzzlePrograms.Recipe.Collection

/-!
# Shelves

Recipes stand on three shelves: all of them on the first, and a few for trials on the others.
-/

namespace PuzzlePrograms.Recipe

inductive Shelf where
  | all
  | few
  | one
  deriving DecidableEq, Repr

def Shelf.holds : Shelf → String → Bool
  | .all, task => (ofTask? task).isSome
  | .few, task => ["dbc1a6ce", "2281f1f4", "c1d99e64"].contains task
  | .one, task => task == "2281f1f4"

def Shelf.recipe? (s : Shelf) (task : String) : Option Recipe := if s.holds task then ofTask? task else none

end PuzzlePrograms.Recipe
