import PuzzlePrograms.Indexed.OfNamed
import PuzzlePrograms.Text.SmallLetter

/-!
# From indices to names

The other direction: every function gets a parameter with a new name, and an index becomes the name of the
parameter it counts to. A program is first brought to small letters, and words in it may be replaced.
-/

namespace PuzzlePrograms.Indexed

def element? (xs : List α) (i : Int) : Option α :=
  if 0 ≤ i then xs[i.toNat]?
  else if -i ≤ xs.length then xs[(xs.length + i).toNat]?
  else none

def nameWord (m : Marks) (bound : List String) (w : String) : Conversion Tree :=
  if Text.starts w m.index then
    match Text.int? (Text.dropFirst w 1) with
    | none => fail .badValue
    | some i =>
      match element? bound i with
      | some x => return .word x
      | none => fail .outOfRange
  else return .word w

mutual

def named (m : Marks) (bound : List String) : Tree → Conversion Tree
  | .word w => nameWord m bound w
  | .scalar x => return .scalar x
  | .node [] => fail .badValue
  | .node (h :: args) =>
    if h.isWord "lam" then do
      let x := m.name ++ toString (bound.length + 1)
      return .node (.word ("lambda " ++ x ++ ": ") :: (← allNamed m (x :: bound) args))
    else do return .node (h :: (← allNamed m bound args))

def allNamed (m : Marks) (bound : List String) : List Tree → Conversion (List Tree)
  | [] => return []
  | t :: ts => do
    let t ← named m bound t
    return t :: (← allNamed m bound ts)

end

mutual

def callText : Tree → Conversion String
  | .word w => return w
  | .scalar x => return x.text
  | .node [] => fail .outOfRange
  | .node (t :: ts) => do
    let f ← callText t
    let as ← callTexts ts
    return f ++ String.join (as.map fun a => "(" ++ a ++ ")")

def callTexts : List Tree → Conversion (List String)
  | [] => return []
  | t :: ts => do
    let u ← callText t
    return u :: (← callTexts ts)

end

/-- A text in small letters with some of its parts replaced, one after another. The empty text stays. -/
def adapt (s : String) (replacements : List (String × String)) : String :=
  if s.isEmpty then s
  else replacements.foldl (fun t (old, new) => Text.replace t old new) (Text.lower s)

def toNamed (s : String) (replacements : List (String × String)) (m : Marks) : Conversion String := do
  let t ← Tree.read (adapt s replacements)
  callText (← named m (freeNames 100) t)

/-- The numbers that follow the letter `y` in a text; `afterY` says whether the last character was one. -/
def numbersAfterY (afterY : Bool) : List Char → List Nat
  | [] => []
  | c :: cs =>
    if afterY && Text.isDecimal c then
      let run := (c :: cs).takeWhile Text.isDecimal
      (Text.unsigned? run).getD 0 :: numbersAfterY false cs
    else numbersAfterY (c == 'y') cs

def abstractionBody (a : String) : Conversion String :=
  match Text.split a ":=" with
  | _ :: b :: _ => return Text.trim b
  | _ => fail .outOfRange

/-- The expression for an abstraction: a function of `y0`, `y1`, … up to the last of them that occurs. -/
def abstractionToNamed (a : String) : Conversion String := do
  let body := Text.replace (← abstractionBody a) "#" "y"
  let params := match (numbersAfterY false body.toList).max? with
    | some n => (List.range (n + 1)).map fun i => "lambda y" ++ toString i ++ ": "
    | none => []
  return String.join params ++ (← toNamed body [] {})

end PuzzlePrograms.Indexed
