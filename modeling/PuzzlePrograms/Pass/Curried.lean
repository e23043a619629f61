import PuzzlePrograms.Pass.Calls
import PuzzlePrograms.Pass.Rename
import PuzzlePrograms.Source.Module
import PuzzlePrograms.Source.Printer

/-!
# The curried form of an expression

In the curried form every function has one parameter, every call one argument, and what has a notation of
its own is a call. `curriedText` is the text of that form, its parameters numbered.
-/

namespace PuzzlePrograms.Pass

open Source

inductive Fault where
  | source (f : Source.Fault)
  | unwritable (u : Unwritable)
  deriving DecidableEq, Repr

def allRules : List Rule :=
  [operators, connectives, bits, conditionals, generators, tags, methods, nestedDisplays, currying, subscripts]

def Shared.text (s : Shared) : Written String := s.resolved.text

def curriedForm (e : Expr) : Shared := runAll allRules { term := e }

def curriedText (s : String) : Except Fault String :=
  match expression? s with
  | .error f => .error (.source f)
  | .ok e =>
    match (curriedForm e).text with
    | .error u => .error (.unwritable u)
    | .ok t => .ok (renumberParams t)

end PuzzlePrograms.Pass
