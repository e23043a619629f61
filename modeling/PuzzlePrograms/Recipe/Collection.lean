import PuzzlePrograms.Recipe.Tasks.Id03
import PuzzlePrograms.Recipe.Tasks.Id47
import PuzzlePrograms.Recipe.Tasks.Id8B
import PuzzlePrograms.Recipe.Tasks.IdCF

/-!
# The collection of recipes

Every task identifier with its recipe, in order of the identifiers.
-/

namespace PuzzlePrograms.Recipe

open Tasks

def collection : List (String × Recipe) :=
  [id0, id1, id2, id3, id4, id5, id6, id7, id8, id9, idA, idB, idC, idD, idE, idF].flatten.map
    fun (task, r) => (task, r ++ [.finish gi go])

def ofTask? (task : String) : Option Recipe := collection.lookup task

end PuzzlePrograms.Recipe
