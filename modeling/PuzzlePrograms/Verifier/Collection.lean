import PuzzlePrograms.Recipe.Collection
import PuzzlePrograms.Verifier.Tasks.Id03
import PuzzlePrograms.Verifier.Tasks.Id47
import PuzzlePrograms.Verifier.Tasks.Id8B
import PuzzlePrograms.Verifier.Tasks.IdCF

/-!
# The collection of verifiers

Every task identifier with its verifier. The tasks are those of the recipes, in the same order.
-/

namespace PuzzlePrograms.Verifier

open Tasks

def collection : List (String × Verifier) := (Recipe.collection.map Prod.fst).zip
  [id0, id1, id2, id3, id4, id5, id6, id7, id8, id9, idA, idB, idC, idD, idE, idF].flatten

def ofTask? (task : String) : Option Verifier := collection.lookup task

end PuzzlePrograms.Verifier
