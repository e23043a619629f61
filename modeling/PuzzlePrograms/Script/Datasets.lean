import PuzzlePrograms.Dataset
import PuzzlePrograms.Script.World
import PuzzlePrograms.Settings

/-!
# Scripts that work on tasks and examples

`generateDataset` writes the examples of tasks to files; `showGenerator` and `showDataset` go through what
they would show; `checkVerifiers` runs the verifiers on the known tasks. Nothing is drawn on a screen.
-/

namespace PuzzlePrograms.Script

open Dataset

/-! ## 1. Values in files -/

mutual

def valueOf : Json → Value
  | .null => .nothing
  | .bool b => .bool b
  | .int i => .int i
  | .float x => .float x
  | .str s => .str s
  | .arr xs => .list (valuesOf xs)
  | .obj ms => .dict (entriesOf ms)

def valuesOf : List Json → List Value
  | [] => []
  | x :: xs => valueOf x :: valuesOf xs

def entriesOf : List (String × Json) → List (Value × Value)
  | [] => []
  | (k, v) :: ms => (.str k, valueOf v) :: entriesOf ms

end

def lift (x : Answer α) : Script α :=
  match x with
  | .ok a => return a
  | .error e => throw (.failed e)

def knownTask (task : String) : Path := Path.of ("arc_original/training/" ++ task ++ ".json")

def allExamples (task : Value) : Answer (List Value) := do
  let train ← task.item (.str "train")
  let test ← task.item (.str "test")
  (← train.add test).elements

/-! ## 2. Datasets -/

def statistics (g : Gathered) : Json :=
  .obj [("n_generations", .int g.generations), ("n_verified", .int g.verified),
    ("n_nondegenerate", .int g.nondegenerate),
    ("rng_difficulties", .arr (g.drawDifficulties.map Settings.plain)),
      ("pso_difficulties", .arr (g.gridDifficulties.map Settings.plain))]

/-- Write a dataset of the given tasks to a folder: the examples of each task, and what was counted. -/
def writeDataset (folder : Path) (tasks : List String) (n : Nat) (lb ub : Value) : Script Ending := do
  makeFolders (folder.child "tasks")
  let keys := tasks.mergeSort fun a b => !(b < a)
  let mut counted : List (String × Json) := []
  for key in keys do
    match Recipe.ofTask? key, Verifier.ofTask? key with
    | some recipe, some verifier =>
      let g ← draw (Dataset.ofTask recipe verifier lb ub n)
      write (folder.child ("tasks/" ++ key ++ ".json"))
        (Json.arr (g.examples.map Settings.plain)).lineText
      counted := Json.put key (statistics g) counted
    | _, _ => throw (.failed .missingKey)
  write (folder.child "metadata.json") (Json.obj counted).lineText
  return .done

def generateDataset (folder : Path) (seed : Int) (tasks : List String) (n : Nat) (lb ub : Value) : Script Ending := do
  seedGeneral seed
  writeDataset folder tasks n lb ub

/-! ## 3. Showing -/

def showGenerator (task : String) (n : Nat) : Script Ending := do
  let known ← readJson (knownTask task)
  let _ ← lift (allExamples (valueOf known))
  match Recipe.ofTask? task with
  | none => throw (.failed .noAttribute)
  | some recipe =>
    for _ in List.range n do
      let _ ← draw (recipe.run 0 1)
    return .done

def insertBy (x : Value × Value) : List (Value × Value) → Answer (List (Value × Value))
  | [] => .ok [x]
  | y :: ys => do
    if ← Value.related .lt x.2 y.2 then return x :: y :: ys else return y :: (← insertBy x ys)

/-- The part of a list before a number of elements that counts from the end if it is negative. -/
def firstPart (n : Int) (v : Value) : Answer (List Value) := do
  (← v.slice .nothing (.int n) .nothing).elements

/-- Go through a dataset: of the tasks from place `s` up to `e`, the known examples and the easy and hard
    ones of the dataset. -/
def showDataset (folder : String) (n s e : Int) : Script Ending := do
  let counted := valueOf (← readJson (Path.of (folder ++ "/metadata.json")))
  for (file, i) in (← list (Path.of (folder ++ "/tasks"))).zipIdx do
    if s ≤ i && (i : Int) < e then
      let key := String.ofList (file.toList.take 8)
      let known := valueOf (← readJson (knownTask key))
      let drawn := valueOf (← readJson (Path.of (folder ++ "/tasks/" ++ key ++ ".json")))
      let _ ← lift do (← allExamples known).mapM Dsl.formatExample
      let examples ← lift do (← firstPart (10 * n) drawn).mapM Dsl.formatExample
      let difficulties ← lift do
        firstPart (9 * n) (← (← counted.item (.str key)).item (.str "pso_difficulties"))
      let _ ← lift ((examples.zip difficulties).foldlM (fun acc x => insertBy x acc) [])
      print key
      print "original:"
      print "generated (easy):"
      print "generated (hard):"
  return .done

/-! ## 4. Checking verifiers -/

def isVerified (verifier : Verifier) (task : Value) : Bool :=
  match allExamples task with
  | .ok examples => examples.all fun ex =>
    match ex.item (.str "input"), ex.item (.str "output") with
    | .ok i, .ok o => passes verifier.output i o
    | _, _ => false
  | .error _ => false

/-- Run the verifiers of the given tasks on the examples that are known, after the corrections. -/
def checkVerifiers (tasks : List String) : Script Ending := do
  let mut known : List (Value × Value) := []
  for key in tasks do
    let task ← lift (Dsl.formatTask (valueOf (← readJson (knownTask key))))
    known := Value.setEntry known (.str key) task
  let (corrected, failure?) := Dsl.fixBugs (.dict known)
  if let some e := failure? then throw (.failed e)
  let failed := tasks.filter fun key =>
    match Verifier.ofTask? key, corrected.item (.str key) with
    | some v, .ok task => !isVerified v task
    | _, _ => true
  let failed := failed.mergeSort fun a b => !(b < a)
  let n := tasks.length
  print ("verification programs work for all examples for " ++ toString (n - failed.length) ++ "/"
    ++ toString n ++ " tasks")
  let shown := if failed.isEmpty then "set()"
    else "\x7b" ++ String.intercalate ", " (failed.map Text.quoted) ++ "\x7d"
  print ("verification fails (on one example) for tasks " ++ shown)
  return .done

end PuzzlePrograms.Script
