import PuzzlePrograms.Text.CharClass

/-!
# Names of parameters in a text

`renumberParams` gives the parameters of functions of one parameter the names `x1`, `x2`, … in the order in
which they are declared. It works on the words of the text: from a declaration on, every word that is the
name of the parameter is replaced, until the next declaration of that name.

`openParamTuples` removes the brackets around groups of parameters.
-/

namespace PuzzlePrograms.Pass

open Text

/-! ## 1. Numbered parameters -/

def afterWord? : List Char → List Char → Option (List Char)
  | [], cs => some cs
  | w :: ws, c :: cs => if w == c then afterWord? ws cs else none
  | _ :: _, [] => none

def declared? (cs : List Char) : Option (List Char × List Char) := do
  let rest ← afterWord? "lambda".toList cs
  let blanks := rest.takeWhile isBlank
  let word := (rest.dropWhile isBlank).takeWhile isWord
  if blanks.isEmpty || word.isEmpty then none
  else
    match (rest.dropWhile isBlank).dropWhile isWord with
    | ':' :: after => some (word, after)
    | _ => none

abbrev Renaming := List (List Char × List Char)

def renumberFrom : Nat → Nat → Renaming → List Char → List Char
  | 0, _, _, cs => cs
  | _, _, _, [] => []
  | fuel + 1, n, names, c :: cs =>
    match declared? (c :: cs) with
    | some (x, rest) =>
      let y := 'x' :: (toString n).toList
      "lambda ".toList ++ y ++ ':' :: renumberFrom fuel (n + 1) ((x, y) :: names) rest
    | none =>
      if isWord c then
        let w := (c :: cs).takeWhile isWord
        (names.lookup w).getD w ++ renumberFrom fuel n names ((c :: cs).dropWhile isWord)
      else c :: renumberFrom fuel n names cs

def renumberParams (s : String) : String := String.ofList (renumberFrom s.length 1 [] s.toList)

/-! ## 2. Groups of parameters -/

def positionFrom? (p : Char → Bool) (i : Nat) (cs : List Char) : Option Nat := ((cs.drop i).findIdx? p).map (i + ·)

/-- Where a declaration with a bracket at position `k` ends: the bracket closes after at least one
    character, and a colon follows. -/
def endOfGroup? (cs : List Char) (k : Nat) : Option Nat := do
  let j ← positionFrom? (· == ')') (k + 1) cs
  if j == k + 1 then none
  else
    let m ← positionFrom? (· == ':') (j + 1) cs
    return m + 1

/-- The length of a declaration with a bracketed group of parameters at the start of a text. The last
    bracket before the first colon that can be the start of a group is taken as such. -/
def groupedDeclaration? (cs : List Char) : Option Nat := do
  let rest ← afterWord? "lambda".toList cs
  let blanks := (rest.takeWhile isBlank).length
  if blanks == 0 then none
  else
    let start := 6 + blanks
    let upTo := ((rest.drop blanks).takeWhile (· != ':')).zipIdx start
    let opens := (upTo.filter (·.1 == '(')).map (·.2)
    opens.reverse.findSome? (endOfGroup? cs)

def openBrackets : Nat → List Char → List Char
  | 0, cs => cs
  | _, [] => []
  | fuel + 1, c :: cs =>
    let inside := cs.takeWhile fun x => x != '(' && x != ')'
    match c, inside, cs.drop inside.length with
    | '(', _ :: _, ')' :: rest => inside ++ openBrackets fuel rest
    | _, _, _ => c :: openBrackets fuel cs

def openGroupsFrom : Nat → List Char → List Char
  | 0, cs => cs
  | _, [] => []
  | fuel + 1, c :: cs =>
    match groupedDeclaration? (c :: cs) with
    | some n => openBrackets n ((c :: cs).take n) ++ openGroupsFrom fuel ((c :: cs).drop n)
    | none => c :: openGroupsFrom fuel cs

def openParamTuples (s : String) : String := String.ofList (openGroupsFrom s.length s.toList)

end PuzzlePrograms.Pass
