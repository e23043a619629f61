import PuzzlePrograms.Indexed.Calls

/-!
# From names to indices

A variable becomes the number of functions between its use and the function that binds it, and a function
loses the name of its parameter. In a tree with all applications joined (`Tree.spine`), the arguments of a
function that is applied at once stand beside its body.
-/

namespace PuzzlePrograms.Indexed

structure Marks where
  index : String := "$"
  name : String := "x"

inductive Head where
  | thunk
  | binder (x : String)
  | nameless
  | called

def headOf (w : String) : Head :=
  if Text.starts (Text.replace w " " "") "lambda:" then .thunk
  else if Text.starts w "lambda" then
    match Text.words (Text.dropLast (Text.trim w)) with
    | _ :: x :: _ => .binder x
    | _ => .nameless
  else .called

def indexWord (m : Marks) (bound : List String) (w : String) : Conversion Tree :=
  if Text.starts w m.name then
    match bound.idxOf? w with
    | some i => return .word (m.index ++ toString i)
    | none => fail .badValue
  else return .word w

mutual

def indexed (m : Marks) (bound : List String) : Tree → Conversion Tree
  | .word w => indexWord m bound w
  | .scalar x => return .scalar x
  | .node [] => fail .outOfRange
  | .node (.word w :: args) =>
    match headOf w with
    | .thunk =>
      match args with
      | [b] => indexed m bound b
      | _ => throw (.asserted "")
    | .nameless => fail .outOfRange
    | .binder x => do return .node (.word "lam " :: (← allIndexed m (x :: bound) args))
    | .called => do return .node (.word w :: (← allIndexed m bound args))
  | .node (_ :: _) => fail .noAttribute

def allIndexed (m : Marks) (bound : List String) : List Tree → Conversion (List Tree)
  | [] => return []
  | t :: ts => do
    let t ← indexed m bound t
    return t :: (← allIndexed m bound ts)

end

def removeNames (m : Marks) (bound : List String) (t : Tree) : Conversion Tree := indexed m bound t.spine

mutual

/-- The text of a tree with indices. A function beside which arguments stand is put in brackets of its
    own. -/
def text : Tree → Conversion String
  | .word w => return w
  | .scalar x => return x.text
  | .node [] => fail .badValue
  | .node (.word w :: args) => do
    let ts ← texts args
    match Text.trim w, ts with
    | "lam", b :: a :: as =>
      return "((lam " ++ b ++ ")" ++ String.join ((a :: as).map (" " ++ ·)) ++ ")"
    | w, ts => return "(" ++ w ++ " " ++ String.intercalate " " ts ++ ")"
  | .node (_ :: _) => fail .noAttribute

def texts : List Tree → Conversion (List String)
  | [] => return []
  | t :: ts => do
    let u ← text t
    return u :: (← texts ts)

end

def freeNames (n : Nat) : List String := (List.range n).map fun i => "x" ++ toString i

def ofNamed (s : String) (m : Marks) : Conversion String := do
  text (← removeNames m (freeNames 400) (← readCalls s))

end PuzzlePrograms.Indexed
