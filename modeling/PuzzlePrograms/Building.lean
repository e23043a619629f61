import PuzzlePrograms.Flatten
import PuzzlePrograms.Indexed.OfNamed
import PuzzlePrograms.Pass.Curried

/-!
# From source texts to programs with indices

A source text is flattened, curried and given indices. Terms that have no place in a program with indices
are counted by their kind, over all texts that are built.
-/

namespace PuzzlePrograms.Building

attribute [local instance] natZero

inductive Fault where
  | flatten (f : Flatten.Fault)
  | curried (f : Pass.Fault)

def curried (source : String) : Except Fault String :=
  match Flatten.flatten source with
  | .error f => .error (.flatten f)
  | .ok e =>
    match Pass.curriedText e with
    | .error f => .error (.curried f)
    | .ok t => .ok t

abbrev Counter := List (String × Nat)

def Counter.add (c : Counter) (kind : String) : Counter :=
  match c with
  | [] => [(kind, 1)]
  | (k, n) :: rest => if k == kind then (k, n + 1) :: rest else (k, n) :: Counter.add rest kind

def Counter.total (c : Counter) : Nat := (c.map (·.2)).sum

def unplaced? : Problem → Option String
  | .unhandledTerm kind => some ("<class 'ast." ++ kind ++ "'>")
  | _ => none

def Counter.note (c : Counter) (p : Problem) : Counter :=
  match unplaced? p with
  | some kind => c.add kind
  | none => c

/-- What building a source text comes to: its curried form, and from that the program with indices or why
    there is none. -/
structure Result where
  curriedForm : String
  program : Conversion String

def build (source : String) : Except Fault Result := do
  let form ← curried source
  return { curriedForm := form, program := Indexed.ofNamed form {} }

def Result.count (r : Result) (c : Counter) : Counter :=
  match r.program with
  | .ok _ => c
  | .error p => c.note p

end PuzzlePrograms.Building
