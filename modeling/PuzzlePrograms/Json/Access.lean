import PuzzlePrograms.Json.Display
import PuzzlePrograms.Problem
import PuzzlePrograms.Text.Search

/-!
# Parts of plain values

Looking up members and elements, with the cause where there is none.
-/

namespace PuzzlePrograms.Json

def item (key : String) : Json → Conversion Json
  | .obj ms =>
    match ms.lookup key with
    | some v => return v
    | none => fail .missingKey
  | _ => fail .wrongType

def itemD (j : Json) (key : String) (default : Json) : Conversion Json :=
  match j with
  | .obj ms => return (ms.lookup key).getD default
  | _ => fail .noAttribute

def first : Json → Conversion Json
  | .arr (x :: _) => return x
  | .arr [] => fail .outOfRange
  | .str s =>
    match s.toList with
    | c :: _ => return .str (String.singleton c)
    | [] => fail .outOfRange
  | .obj _ => fail .missingKey
  | _ => fail .wrongType

def elements : Json → Conversion (List Json)
  | .arr xs => return xs
  | .str s => return s.toList.map fun c => .str (String.singleton c)
  | .obj ms => return ms.map fun m => .str m.1
  | _ => fail .wrongType

def string : Json → Conversion String
  | .str s => return s
  | _ => fail .noAttribute

/-- Whether a value holds a string: as a member, an element or a part. A value that holds nothing cannot
    be asked. -/
def holds? (key : String) : Json → Option Bool
  | .obj ms => some (ms.lookup key).isSome
  | .arr xs => some (xs.any (same · (.str key)))
  | .str s => some (Text.occurs key s)
  | _ => none

/-- Whether a value holds a string, where nothing else is said about a value that cannot be asked. -/
def holds (key : String) (j : Json) : Conversion Bool :=
  match j.holds? key with
  | some b => return b
  | none => fail .wrongType

def mustHold (key text : String) (j : Json) : Conversion Unit :=
  match j.holds? key with
  | some true => return
  | some false => throw (.asserted text)
  | none => notSearchable j.typeName

/-- The text of a value that has to be a string, where `member` is the first thing that is asked of it. -/
def stringFor (member : String) : Json → Conversion String
  | .str s => return s
  | j => lacksMember j.typeName member

def size? : Json → Option Nat
  | .str s => some s.length
  | .arr xs => some xs.length
  | .obj ms => some ms.length
  | _ => none

def size (j : Json) : Conversion Nat :=
  match j.size? with
  | some n => return n
  | none => noLength j.typeName

def statedItem (key : String) (j : Json) : Conversion Json :=
  match j with
  | .obj ms =>
    match ms.lookup key with
    | some v => return v
    | none => throw (.stated .missingKey ("'" ++ key ++ "'"))
  | .arr _ => throw (.stated .wrongType "list indices must be integers or slices, not str")
  | .str _ => throw (.stated .wrongType "string indices must be integers, not 'str'")
  | j => throw (.stated .wrongType ("'" ++ j.typeName ++ "' object is not subscriptable"))

def truth : Json → Bool
  | .null => false
  | .bool b => b
  | .int i => i != 0
  | .float x => x != 0.0
  | .str s => !s.isEmpty
  | .arr xs => !xs.isEmpty
  | .obj ms => !ms.isEmpty

end PuzzlePrograms.Json
