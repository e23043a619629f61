import PuzzlePrograms.Random.Source
import PuzzlePrograms.Value.Slots

/-!
# The state of a run

A run draws from a random source, keeps a record of the difficulty draws, numbers the closures it
builds and holds the variables of a recipe. All of it stays when a run fails, so that what was drawn
up to the failure can still be read. It also knows in which order the colours of a grid are met when
two of them are equally frequent.
-/

namespace PuzzlePrograms

structure Session where
  source : Random.Source
  drawn : List Float := []
  serial : Nat := 0
  vars : List (String × Value) := []
  arrange : Arrangement := SortedSet.ofList
  deriving Inhabited

abbrev Eval := EStateM Failure Session

instance : MonadLift Answer Eval where
  monadLift
    | .ok a => pure a
    | .error e => throw e

namespace Session

def ofSeed (n : Nat) : Session := { source := .ofNat n }

/-- A session that meets colours as a table of slots shows them. -/
def unordered (n : Nat) : Session := { source := .ofNat n, arrange := Slots.arrange }

def record (s : Session) : List Float := s.drawn.reverse

end Session

namespace Eval

def draw (f : Random.Source → α × Random.Source) : Eval α :=
  modifyGet fun s => let (a, src) := f s.source; (a, { s with source := src })

def closure (shape : Shape) (held : List Value) : Eval Value :=
  modifyGet fun s => (.closure s.serial shape held, { s with serial := s.serial + 1 })

def arranged (f : Arrangement → Answer α) : Eval α := do f (← get).arrange

def element (x : Eval α) : Eval α := tryCatch x fun e => throw e.insideElement

end Eval

end PuzzlePrograms
