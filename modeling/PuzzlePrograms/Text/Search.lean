import PuzzlePrograms.Text.Digit

/-!
# Searching and cutting text

A text is searched from its start, and what has been found is passed over: occurrences do not overlap.
The functions on characters take the number of characters that still belong to the last occurrence.
-/

namespace PuzzlePrograms.Text

/-! ## 1. On characters -/

def replaceChars (old new : List Char) : Nat → List Char → List Char
  | _, [] => []
  | n + 1, _ :: cs => replaceChars old new n cs
  | 0, c :: cs =>
    if old.isPrefixOf (c :: cs) then new ++ replaceChars old new (old.length - 1) cs
    else c :: replaceChars old new 0 cs

def countChars (sub : List Char) : Nat → List Char → Nat
  | _, [] => 0
  | n + 1, _ :: cs => countChars sub n cs
  | 0, c :: cs =>
    if sub.isPrefixOf (c :: cs) then 1 + countChars sub (sub.length - 1) cs
    else countChars sub 0 cs

/-- The parts between the occurrences of `sep`, which is not empty; `part` is the part so far, its last
    character first. -/
def splitChars (sep : List Char) (part : List Char) : Nat → List Char → List (List Char)
  | _, [] => [part.reverse]
  | n + 1, _ :: cs => splitChars sep part n cs
  | 0, c :: cs =>
    if sep.isPrefixOf (c :: cs) then part.reverse :: splitChars sep [] (sep.length - 1) cs
    else splitChars sep (c :: part) 0 cs

/-- The runs of characters without blanks; `word` is the run so far, its last character first. -/
def wordChars (word : List Char) : List Char → List (List Char)
  | [] => if word.isEmpty then [] else [word.reverse]
  | c :: cs =>
    if isBlank c then
      if word.isEmpty then wordChars [] cs else word.reverse :: wordChars [] cs
    else wordChars (c :: word) cs

/-! ## 2. On text -/

def replace (s old new : String) : String :=
  match old.toList with
  | [] => String.ofList (new.toList ++ s.toList.flatMap fun c => c :: new.toList)
  | old => String.ofList (replaceChars old new.toList 0 s.toList)

def count (s sub : String) : Nat :=
  match sub.toList with
  | [] => s.length + 1
  | sub => countChars sub 0 s.toList

def occurs (sub s : String) : Bool := count s sub != 0

def split (s sep : String) : List String := (splitChars sep.toList [] 0 s.toList).map String.ofList

def words (s : String) : List String := (wordChars [] s.toList).map String.ofList

def trim (s : String) : String := String.ofList (trimBlanks s.toList)

def dropFirst (s : String) (n : Nat) : String := String.ofList (s.toList.drop n)

def dropLast (s : String) : String := String.ofList s.toList.dropLast

def starts (s start : String) : Bool := start.toList.isPrefixOf s.toList

def ends (s tail : String) : Bool := tail.toList.isSuffixOf s.toList

end PuzzlePrograms.Text
