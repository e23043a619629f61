import PuzzlePrograms.Difficulty
import PuzzlePrograms.Verifier.Collection

/-!
# Datasets

A dataset has so many examples for each task, all different, drawn by the recipe of the task and checked by
its verifier. What was drawn and left out is counted.
-/

namespace PuzzlePrograms.Dataset

open Value

/-! ## 1. Examples -/

structure Gathered where
  examples : List Value := []
  seen : List UInt64 := []
  generations : Nat := 0
  verified : Nat := 0
  nondegenerate : Nat := 0
  drawDifficulties : List Value := []
  gridDifficulties : List Value := []

def grids? (ex : Value) : Option (Value × Value) :=
  match ex.item (.str "input"), ex.item (.str "output") with
  | .ok i, .ok o => if Dsl.isGrid i && Dsl.isGrid o then some (i, o) else none
  | _, _ => none

def mixed (codes : List UInt64) : UInt64 :=
  let step (acc c : UInt64) : UInt64 :=
    let acc := acc + c * 14029467366897019727
    (acc <<< 31 ||| acc >>> 33) * 11400714785074694791
  let acc := codes.foldl step 2870177450012600261 + (codes.length.toUInt64 ^^^ 2870177450012600261 ^^^ 3527539)
  if acc == 18446744073709551615 then 1546275796 else acc

def cellCode (v : Value) : UInt64 := (v.int?.getD 0).toNat.toUInt64

/-- The code that stands for a grid. Equal grids have one code, and it is rare that others share it. -/
def code (grid : Value) : UInt64 :=
  let parts : Value → List Value
    | .tuple xs => xs
    | _ => []
  mixed ((parts grid).map fun row => mixed ((parts row).map cellCode))

/-! ## 2. Attempts -/

def passes (verifier : Value → Answer Value) (input output : Value) : Bool :=
  match verifier input with
  | .ok found => eqv found output
  | .error _ => false

inductive Verdict where
  | noGrids
  | unverified
  | degenerate
  | good (ex input output : Value)

def judge (verifier : Value → Answer Value) (drawn : Option Value) : Verdict :=
  match drawn with
  | none => .noGrids
  | some ex =>
    match grids? ex with
    | none => .noGrids
    | some (input, output) =>
      if !passes verifier input output then .unverified
      else if eqv input output then .degenerate
      else .good ex input output

def attempt (generator : Eval Value) : Eval (Option Value) :=
  tryCatch (do return some (← generator)) fun _ => return none

def Gathered.count (g : Gathered) : Verdict → Gathered
  | .noGrids => g
  | .unverified => { g with generations := g.generations + 1 }
  | .degenerate => { g with generations := g.generations + 1, verified := g.verified + 1 }
  | .good .. => { g with
      generations := g.generations + 1
      verified := g.verified + 1
      nondegenerate := g.nondegenerate + 1 }

def Gathered.take (g : Gathered) (ex input output : Value) : Eval Gathered := do
  let d ← Difficulty.ofRecord
  let p ← Difficulty.ofGrids input output
  return { g with
    examples := g.examples ++ [ex]
    seen := code input :: g.seen
    drawDifficulties := g.drawDifficulties ++ [d]
    gridDifficulties := g.gridDifficulties ++ [p] }

def Gathered.step (g : Gathered) (generator : Eval Value) (verifier : Value → Answer Value) : Eval Gathered := do
  let verdict := judge verifier (← attempt generator)
  let g := g.count verdict
  match verdict with
  | .good ex input output => if g.seen.contains (code input) then return g else g.take ex input output
  | _ => return g

/-! ## 3. Tasks -/

def gather (generator : Eval Value) (verifier : Value → Answer Value) (n : Nat) : Gathered → Nat → Eval Gathered
  | g, fuel =>
    if g.examples.length < n then
      match fuel with
      | 0 => throw .tooDeep
      | fuel + 1 => do gather generator verifier n (← g.step generator verifier) fuel
    else return g

def attempts : Nat := 1000000

def ofTask (recipe : Recipe) (verifier : Verifier) (lb ub : Value) (n : Nat) : Eval Gathered :=
  gather (recipe.run lb ub) verifier.output n {} attempts

end PuzzlePrograms.Dataset
