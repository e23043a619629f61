import PuzzlePrograms.Json
import PuzzlePrograms.Number.Shortest

/-!
# JSON files

The text of a value in a file: on one line with a blank after each comma and colon, or on lines of
their own for every element and member, four blanks deeper at every level.
-/

namespace PuzzlePrograms.Json

def floatText (x : Float) : String :=
  if x.isNaN then "NaN"
  else if x.isInf then if x < 0.0 then "-Infinity" else "Infinity"
  else Decimal.Layout.source.text x

def between (opening closing : String) (depth? : Option Nat) (parts : List String) : String :=
  if parts.isEmpty then opening ++ closing
  else
    match depth? with
    | none => opening ++ String.intercalate ", " parts ++ closing
    | some d =>
      let line (d : Nat) : String := "\n" ++ String.ofList (List.replicate (4 * d) ' ')
      opening ++ line (d + 1) ++ String.intercalate ("," ++ line (d + 1)) parts ++ line d ++ closing

mutual

def fileText (depth? : Option Nat) : Json → String
  | .null => "null"
  | .bool b => if b then "true" else "false"
  | .int i => toString i
  | .float x => floatText x
  | .str s => quote s
  | .arr xs => between "[" "]" depth? (fileTexts (depth?.map (· + 1)) xs)
  | .obj ms => between "\x7b" "\x7d" depth? (fileMembers (depth?.map (· + 1)) ms)

def fileTexts (depth? : Option Nat) : List Json → List String
  | [] => []
  | x :: xs => fileText depth? x :: fileTexts depth? xs

def fileMembers (depth? : Option Nat) : List (String × Json) → List String
  | [] => []
  | (k, x) :: ms => (quote k ++ ": " ++ fileText depth? x) :: fileMembers depth? ms

end

def lineText (j : Json) : String := j.fileText none

def pageText (j : Json) : String := j.fileText (some 0)

end PuzzlePrograms.Json
