import PuzzlePrograms.Recipe.Run

/-!
# Verifiers: straight-line programs from a grid to a grid

A verifier computes the output of a puzzle from its input, step by step. Each step calls a primitive, or
a function that an earlier step has built, on the input grid, on results of earlier steps and on
constants. Results are counted back from the step that uses them: 0 is the result before. The result of the last step is
the output.

`Verifier.trace` keeps the results up to the step that fails, so that a run that fails still shows what
it had computed.
-/

namespace PuzzlePrograms

namespace Verifier

inductive Operand where
  | grid
  | x (k : Nat)
  | int (i : Int)
  | bool (b : Bool)
  | vec (i j : Int)
  | fn (p : Primitive)
  deriving DecidableEq, Repr

inductive Step where
  | call (p : Primitive) (args : List Operand)
  | use (k : Nat) (args : List Operand)
  deriving DecidableEq, Repr

/-- The value of an operand, with the results so far, the last one first. -/
def Operand.value (grid : Value) (results : List Value) : Operand → Value
  | .grid => grid
  | .x k => results.getD k .nothing
  | .int i => .int i
  | .bool b => .bool b
  | .vec i j => Value.pair i j
  | .fn p => .prim p

def Step.run (grid : Value) (results : List Value) : Step → Eval Value
  | .call p args => Recipe.callValue (.prim p) (args.map (·.value grid results))
  | .use k args =>
    Recipe.callValue (results.getD k .nothing) (args.map (·.value grid results))

end Verifier

abbrev Verifier := List Verifier.Step

namespace Verifier

def traceFrom (grid : Value) : Verifier → List Value → Session → List Value × Option Failure
  | [], results, _ => (results, none)
  | s :: ss, results, session =>
    match (s.run grid results).run session with
    | .ok v session => traceFrom grid ss (v :: results) session
    | .error e _ => (results, some e)

/-- The results of the steps up to one that fails. -/
def trace (v : Verifier) (grid : Value) : Array Value × Option Failure :=
  let (results, failure?) := traceFrom grid v [] { source := .ofNat 0 }
  (results.reverse.toArray, failure?)

def output (v : Verifier) (grid : Value) : Answer Value :=
  match v.trace grid with
  | (_, some e) => .error e
  | (results, none) => .ok (results.back?.getD .nothing)

end Verifier

end PuzzlePrograms
