import PuzzlePrograms.Json
import PuzzlePrograms.Number.Shortest
import PuzzlePrograms.Text.Quoted

/-!
# Plain values as they are shown

The text of a plain value in messages and in what is printed. Strings inside of lists and tables are quoted,
a string by itself is not.
-/

namespace PuzzlePrograms.Json

mutual

def display : Json → String
  | .null => "None"
  | .bool true => "True"
  | .bool false => "False"
  | .int i => toString i
  | .float x => Decimal.Layout.source.text x
  | .str s => Text.quoted s
  | .arr xs => "[" ++ String.intercalate ", " (displayAll xs) ++ "]"
  | .obj ms => "\x7b" ++ String.intercalate ", " (displayMembers ms) ++ "\x7d"

def displayAll : List Json → List String
  | [] => []
  | x :: xs => display x :: displayAll xs

def displayMembers : List (String × Json) → List String
  | [] => []
  | (k, v) :: ms => (Text.quoted k ++ ": " ++ display v) :: displayMembers ms

end

def shown : Json → String
  | .str s => s
  | j => j.display

def typeName : Json → String
  | .null => "NoneType"
  | .bool _ => "bool"
  | .int _ => "int"
  | .float _ => "float"
  | .str _ => "str"
  | .arr _ => "list"
  | .obj _ => "dict"

/-! ## Equality -/

def whole? : Json → Option Int
  | .bool true => some 1
  | .bool false => some 0
  | .int i => some i
  | _ => none

mutual

def same : Json → Json → Bool
  | .null, .null => true
  | .str a, .str b => a == b
  | .float x, .float y => x == y
  | .float x, b => match b.whole? with
    | some i => x == Float.ofInt i
    | none => false
  | .arr xs, .arr ys => sameAll xs ys
  | .obj ms, .obj ns => ms.length == ns.length && sameMembers ms ns
  | a, .float y => match a.whole? with
    | some i => Float.ofInt i == y
    | none => false
  | a, b => match a.whole?, b.whole? with
    | some i, some j => i == j
    | _, _ => false

def sameAll : List Json → List Json → Bool
  | [], [] => true
  | x :: xs, y :: ys => same x y && sameAll xs ys
  | _, _ => false

def sameMembers : List (String × Json) → List (String × Json) → Bool
  | [], _ => true
  | (k, v) :: ms, ns =>
    (match ns.lookup k with
      | some w => same v w
      | none => false) && sameMembers ms ns

end

end PuzzlePrograms.Json
