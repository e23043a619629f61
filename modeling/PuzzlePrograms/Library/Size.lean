import PuzzlePrograms.Json.Access

/-!
# The size of programs

A program costs 100 for each word that is no mark of a function, and 1 for each function and each
application. It is measured on its text: an application is a blank.
-/

namespace PuzzlePrograms.Library

attribute [local instance] natZero

def inner : Nat := 1

def leaf : Nat := 100

def programSize (s : String) : Nat :=
  let functions := Text.count s "(lam "
  let s := Text.replace s "(lam " ""
  let applications := Text.count s " "
  let words := Text.replace (Text.replace s "(" "") ")" ""
  inner * functions + inner * applications
    + leaf * ((Text.split words " ").filter (· != "")).length

def totalSize (programs : List String) : Nat := (programs.map programSize).sum

def programsOf (j : Json) : Conversion (List String) := do (← j.elements).mapM (·.string)

/-- The size of programs and of the abstractions that they use. Both are lists, or both are strings. -/
def corpusSize (programs abstractions : Json) : Conversion Nat := do
  match programs, abstractions with
  | .arr _, .arr _ | .str _, .str _ =>
    return totalSize ((← programsOf programs) ++ (← programsOf abstractions))
  | _, _ => fail .wrongType

def distinct (tasks : List Json) : List Json :=
  tasks.foldl (fun seen t => if seen.any (t.same ·) then seen else seen ++ [t]) []

def isTaskName : Json → Bool
  | .arr _ | .obj _ => false
  | _ => true

def corpusSizeMin (programs tasks abstractions : Json) : Conversion Nat := do
  if (← programs.size) != (← tasks.size) then throw (.asserted "")
  let names ← tasks.elements
  if !names.all isTaskName then fail .wrongType
  let known := names.zip (← programsOf programs)
  let smallest := (distinct names).map fun t =>
    ((known.filter fun (u, _) => u.same t).map fun (_, p) => programSize p).min?.getD 0
  return smallest.sum + totalSize (← programsOf abstractions)

def usages (name : String) (programs : List String) : Nat :=
  (programs.map fun p => Text.count p (name ++ ")") + Text.count p (name ++ " ")).sum

end PuzzlePrograms.Library
