import PuzzlePrograms.Dsl.Grid

/-!
# Grids, examples and tasks as data

The form that grids, examples (an input with its output) and tasks (examples for training and for
testing) take when they are read from a file, and the corrections to a known collection of tasks.
-/

namespace PuzzlePrograms.Dsl

open Value

/-- Whether a value is a grid: one to thirty rows of one to thirty cells, all of one length, with
    colours from 0 to 9. -/
def isGrid (grid : Value) : Bool :=
  match grid with
  | .tuple rows =>
    let cellsOf (r : Value) : Option (List Value) :=
      match r with
      | .tuple cs => some cs
      | _ => none
    match rows.mapM cellsOf with
    | some rs =>
      0 < rs.length && rs.length ≤ 30 && (rs.all fun r => 0 < r.length && r.length ≤ 30)
        && (rs.all fun r => r.length == (rs.head?.map List.length).getD 0)
        && (rs.all fun r => r.all fun v =>
          match v.int? with
          | some i => 0 ≤ i && i ≤ 9
          | none => false)
    | none => false
  | _ => false

def stripPrefix (s p : Value) : Answer Value := do
  s.slice (.int (← p.size)) .nothing .nothing

def formatGrid (grid : Value) : Answer Value := do
  return .tuple (← (← grid.elements).mapM fun r => do return .tuple (← r.elements))

def formatExample (e : Value) : Answer Value := do
  let i ← formatGrid (← e.item (.str "input"))
  let o ← formatGrid (← e.item (.str "output"))
  return .dict [(.str "input", i), (.str "output", o)]

def formatTask (t : Value) : Answer Value := do
  let train ← (← (← t.item (.str "train")).elements).mapM formatExample
  let test ← (← (← t.item (.str "test")).elements).mapM formatExample
  return .dict [(.str "train", .list train), (.str "test", .list test)]

/-! ## Corrections -/

/-- One correction: in a task, a training example whose output gets a colour at some places. -/
structure Correction where
  task : String
  example_ : Nat
  color : Int
  places : List (Int × Int)

def corrections : List Correction :=
  [⟨"a8d7556c", 2, 2, [(8, 12), (9, 12)]⟩, ⟨"6cf79266", 2, 1, [(6, 17), (7, 17), (8, 15), (8, 16), (8, 17)]⟩,
   ⟨"469497ad", 1, 7, [(5, 12), (5, 13), (5, 14)]⟩, ⟨"9edfc990", 1, 1, [(6, 13)]⟩,
     ⟨"e5062a87", 1, 2, [(1, 3), (1, 4), (1, 5), (1, 6)]⟩,
   ⟨"e5062a87", 0, 2, [(5, 2), (6, 3), (3, 6), (4, 7)]⟩]

def modifyItem (v i : Value) (f : Value → Answer Value) : Answer Value := do
  v.setItem i (← f (← v.item i))

def correct (tasks : Value) (c : Correction) : Answer Value :=
  modifyItem tasks (.str c.task) fun task =>
    modifyItem task (.str "train") fun examples =>
      modifyItem examples (.int c.example_) fun ex =>
        modifyItem ex (.str "output") fun grid =>
          fill grid (.int c.color) (.mset (SortedSet.ofList (c.places.map fun (i, j) => Value.pair i j)))

/-- Make corrections in turn: the tasks up to the first that cannot be made, and why it cannot. -/
def correctAll : List Correction → Value → Value × Option Failure
  | [], tasks => (tasks, none)
  | c :: cs, tasks =>
    match correct tasks c with
    | .ok tasks => correctAll cs tasks
    | .error e => (tasks, some e)

def fixBugs (tasks : Value) : Value × Option Failure := correctAll corrections tasks

end PuzzlePrograms.Dsl
