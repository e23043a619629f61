import PuzzlePrograms.Dsl.Object
import PuzzlePrograms.Session

/-!
# How difficult an example is

Two measures: the mean of the difficulty draws that were made for an example, and a mean of how many
cells, colours and objects its grids have.
-/

namespace PuzzlePrograms.Difficulty

open Value

def mean (draws : List Value) : Answer Value := do
  let sum ← draws.foldlM Value.add 0
  sum.div (.int draws.length)

def ofRecord : Eval Value := do
  let draws ← modifyGet fun s => (s.record, { s with drawn := [] })
  mean (draws.map .float)

def area (grid : Value) : Answer Value := do
  (← Dsl.height grid).mul (← Dsl.width grid)

def objectCount (grid : Value) : Answer Value := do
  return .int (← (← Dsl.objects grid (.bool true) (.bool false) (.bool false)).size)

def ofGrids (input output : Value) : Answer Value := do
  let a ← area input
  let b ← area output
  let cells ← (← a.add b).div 1800
  let colours ← (← Dsl.palette input).or (← Dsl.palette output)
  let colours ← (Value.int (← colours.size)).div 10
  let inside ← (← objectCount input).div a
  let outside ← (← objectCount output).div b
  let objects ← (← inside.add outside).div 2
  (← (← cells.add colours).add objects).div 3

end PuzzlePrograms.Difficulty
