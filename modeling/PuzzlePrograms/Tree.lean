import PuzzlePrograms.Problem
import PuzzlePrograms.Text.Search

/-!
# Trees of words

A program as nested lists of words: `(f a (g b))` is the list of `f`, `a` and the list of `g` and `b`. A
place may also hold a plain value that is no word.

* `Tree.spine` joins a list at the head of a list with the list around it, so that an application has all
  its arguments in one list;
* `Tree.read` reads the first tree of a text, `Tree.readWhole` a text that is one tree.
-/

namespace PuzzlePrograms

inductive Scalar where
  | none
  | bool (b : Bool)
  | int (i : Int)
  | float (x : Float)
  deriving Inhabited, Repr

def Scalar.text : Scalar → String
  | .none => "None"
  | .bool true => "True"
  | .bool false => "False"
  | .int i => toString i
  | .float x => Decimal.Layout.source.text x

inductive Tree where
  | word (s : String)
  | scalar (x : Scalar)
  | node (ts : List Tree)
  deriving Inhabited, Repr

namespace Tree

/-! ## 1. Heads that are lists -/

/-- A list of trees whose first element is no list: the elements of a list at the head take its place.
    Lists inside the head have been joined before. -/
def joinHead : List Tree → List Tree
  | .node [] :: rest => joinHead rest
  | .node (t :: ts) :: rest => t :: ts ++ rest
  | ts => ts

mutual

def spine : Tree → Tree
  | .node ts => .node (joinHead (spines ts))
  | t => t

def spines : List Tree → List Tree
  | [] => []
  | t :: ts => spine t :: spines ts

end

mutual

def hasEmpty : Tree → Bool
  | .node [] => true
  | .node (t :: ts) => hasEmpty t || anyEmpty ts
  | _ => false

def anyEmpty : List Tree → Bool
  | [] => false
  | t :: ts => hasEmpty t || anyEmpty ts

end

def applications (t : Tree) : Conversion Tree := if t.spine.hasEmpty then fail .outOfRange else return t.spine

/-! ## 2. Reading -/

def lexemes (s : String) : List String := Text.words (Text.replace (Text.replace s "(" " ( ") ")" " ) ")

abbrev Open := List (List Tree)

/-- Read the rest of the lists that are open; what comes after the last of them does not count. -/
def readOpen : Open → List String → Conversion Tree
  | _, [] => fail .outOfRange
  | lists, "(" :: rest => readOpen ([] :: lists) rest
  | [l], ")" :: _ => return .node l.reverse
  | l :: m :: lists, ")" :: rest => readOpen ((.node l.reverse :: m) :: lists) rest
  | l :: lists, w :: rest => readOpen ((.word w :: l) :: lists) rest
  | [], _ :: _ => fail .outOfRange

def read (s : String) : Conversion Tree :=
  match lexemes s with
  | [] => throw .unexpectedEnd
  | "(" :: rest => readOpen [[]] rest
  | ")" :: _ => throw .unexpectedClose
  | w :: _ => return .word w

def readAll (whole : String) : Open → List String → Conversion Tree
  | _, [] => throw (.unclosed whole)
  | lists, "(" :: rest => readAll whole ([] :: lists) rest
  | [l], [")"] => return .node l.reverse
  | [_], ")" :: _ => throw (.trailing whole)
  | l :: m :: lists, ")" :: rest => readAll whole ((.node l.reverse :: m) :: lists) rest
  | l :: lists, w :: rest => readAll whole ((.word w :: l) :: lists) rest
  | [], _ :: _ => fail .outOfRange

/-- A text that is one tree. A sharp before a bracket becomes the first word inside it; a sharp anywhere
    else is refused. A single word is no tree. -/
def readWhole (s : String) : Conversion Tree :=
  if Text.count s "#(" != Text.count s "#" then
    throw (.asserted
      "parser assumes all `#` symbols are followed by a `(` but this is not the case here")
  else
    match lexemes (Text.replace s "#(" "(# ") with
    | [] => throw .noExpression
    | [_] => fail .outOfRange
    | a :: b :: rest =>
      if b == ")" then throw .startsClosed else readAll s [] (a :: b :: rest)

/-! ## 3. Writing -/

mutual

/-- A tree in brackets; a list that starts with a sharp is written with the sharp before the bracket. A
    value that is no word has no text. -/
def shown? : Tree → Conversion (Option String)
  | .word s => return some s
  | .scalar _ => return none
  | .node (.word s :: ts) => do
    let us ← allShown ts
    if Text.starts s "#" then return some ("#(" ++ String.intercalate " " us ++ ")")
    else return some ("(" ++ String.intercalate " " (s :: us) ++ ")")
  | .node ts => do
    let us ← allShown ts
    return some ("(" ++ String.intercalate " " us ++ ")")

def allShown : List Tree → Conversion (List String)
  | [] => return []
  | t :: ts => do
    let u ← shown? t
    let us ← allShown ts
    match u with
    | some u => return u :: us
    | none => fail .wrongType

end

/-! ## 4. Words -/

def isWord (s : String) : Tree → Bool
  | .word w => w == s
  | _ => false

mutual

def replaceWord (old new : String) : Tree → Conversion Tree
  | .word w => return .word (if w == old then new else w)
  | .scalar _ => throw (.asserted "")
  | .node ts => return .node (← replaceWords old new ts)

def replaceWords (old new : String) : List Tree → Conversion (List Tree)
  | [] => return []
  | t :: ts => do
    let t ← replaceWord old new t
    return t :: (← replaceWords old new ts)

end

end Tree

end PuzzlePrograms
