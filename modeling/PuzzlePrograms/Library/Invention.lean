import PuzzlePrograms.Library.Abstraction
import PuzzlePrograms.Library.Size

/-!
# Inventions

An invention is an abstraction together with both of its notations: the written-out form, and the form
with a name, with its holes as they come and with its holes numbered in the order of their first use.

`Invention`s are kept as plain tables, since they are read from files and shown in messages.
-/

namespace PuzzlePrograms.Library

/-! ## 1. The form with holes -/

/-- Remove the functions around a body and count them; the fuel is the length of the text. The closing
    bracket is taken to be the last character. -/
def dropBinders : Nat → String → String × Nat
  | 0, s => (s, 0)
  | fuel + 1, s =>
    if Text.starts s "(lambda " then
      let (t, n) := dropBinders fuel (Text.dropLast (Text.dropFirst s 8))
      (t, n + 1)
    else (s, 0)

def functionDepth (brackets : List Bool) : Nat := (brackets.filter id).length

/-- Holes in place of the variables that count out of a body of so many parameters. `brackets` says of
    each bracket that is open whether it starts a function; the first argument counts the characters that
    have been dealt with. -/
def fillHoles (arity : Nat) : Nat → List Bool → List Char → Conversion (List Char)
  | _, _, [] => return []
  | n + 1, brackets, _ :: cs => fillHoles arity n brackets cs
  | 0, brackets, c :: cs => do
    if "(lambda ".toList.isPrefixOf (c :: cs) then
      return "(lambda ".toList ++ (← fillHoles arity 7 (true :: brackets) cs)
    else if c == '(' then return c :: (← fillHoles arity 0 (false :: brackets) cs)
    else if c == ')' then
      match brackets with
      | [] => fail .outOfRange
      | _ :: brackets => return c :: (← fillHoles arity 0 brackets cs)
    else if c == '$' then
      let digits := cs.takeWhile Text.isDigit
      match Text.int? (String.ofList digits) with
      | none => fail .badValue
      | some i =>
        let up := i - functionDepth brackets
        let w := if up < 0 then "$" ++ toString i else "#" ++ toString ((arity : Int) - up - 1)
        return w.toList ++ (← fillHoles arity digits.length brackets cs)
    else return c :: (← fillHoles arity 0 brackets cs)

/-- The form with holes of an abstraction that is written out and uses no other one, and the number of
    its holes. -/
def holeForm (s : String) : Conversion (String × Nat) := do
  let source := Text.dropFirst s 1
  if Text.occurs "#" source then throw (.asserted "")
  let (body, arity) := dropBinders source.length source
  let filled ← fillHoles arity 0 [] body.toList
  return (Text.replace (String.ofList filled) "lambda" "lam", arity)

/-! ## 2. The order of the holes -/

def holeNumbers : List Nat := (List.range 101).reverse

def holeMark (i : Nat) : String := "#_#_" ++ toString i ++ "#_#_"

/-- A form whose holes are numbered by their first use. Every use of a hole counts in the numbering. -/
def canonical (s : String) : Conversion String := do
  let marked := holeNumbers.foldl
    (fun t i => Text.replace t ("#" ++ toString i) (holeMark i)) s
  let uses ← ((Text.split marked "#_#_").filter Text.isDigits).mapM fun d =>
    match Text.int? d with
    | some i => pure i
    | none => fail .badValue
  return holeNumbers.foldl (fun t i => match uses.idxOf? (Int.ofNat i) with
      | some k => Text.replace t (holeMark i) ("#" ++ toString k)
      | none => t) marked

/-! ## 3. Inventions -/

def invention (name form uncanonical canonical arity : Json) : Json :=
  .obj [("name", name), ("dreamcoder", form), ("stitch_uncanonical", uncanonical),
    ("stitch_canonical", canonical), ("arity", arity)]

def shortenWith (inventions : List Json) (s : String) : Conversion String :=
  inventions.reverse.foldlM (fun t e => do
    let form ← e.item "dreamcoder"
    let name ← e.item "name"
    match form, name with
    | .str form, .str name => return Text.replace t form name
    | _, _ => fail .wrongType) s

def inventionsOfResult (j : Json) : Conversion (List Json) := do
  (← (← j.item "abstractions").elements).mapM fun a => do
    let name ← a.item "name"
    let form ← a.item "dreamcoder"
    let body ← a.item "body"
    let ordered ← canonical (← body.string)
    return invention name form body (.str ordered) (← a.item "arity")

def orderedForms (forms : Json) : Conversion (List String) := do
  let refused : Problem := .asserted
    ("sort in increasing length so that earlier inventions always come before "
      ++ "inventions that use them internally (dreamcoder sometimes varies in output ordering so we "
      ++ "must do this)")
  match forms with
  | .arr xs =>
    let lengths ← xs.mapM (·.size)
    if lengths.mergeSort != lengths then throw refused
    xs.mapM (·.string)
  | .str _ | .obj _ => throw refused
  | j => throw (.stated .wrongType ("'" ++ j.typeName ++ "' object is not iterable"))

/-- The inventions for forms that are written out, shorter ones first, each of which may use those before
    it and those that are there already. -/
def inventionsOf (forms : Json) (start? : Option (List Json)) : Conversion (List Json) := do
  (← orderedForms forms).zipIdx.foldlM (fun known (form, i) => do
    let short ← shortenWith known form
    let sharps := Text.count short "#"
    if sharps == 0 then
      throw (.asserted ("this no longer seems to be an invention, maybe it was already present in "
        ++ "start_from?"))
    if sharps != 1 then
      throw (.asserted ("there seem to still be nested inventions after rewriting, was start_from in "
        ++ "sorted order and does dc_invs build on it?\n" ++ short ++ "\n"
        ++ forms.display ++ "\n"
        ++ (match start? with | some js => Json.arr js | none => .null).display))
    let (body, arity) ← holeForm short
    let ordered ← canonical body
    return known ++ [invention (.str ("fn_" ++ toString i)) (.str form) (.str body) (.str ordered)
      (.int arity)]) (start?.getD [])

def shortProgram (s : String) (inventions : List Json) : Conversion String := do
  let s := Text.replace (← shortenWith inventions s) "lambda" "lam"
  if Text.occurs "#" s then throw (.asserted "") else return s

/-! ## 4. Differences -/

def newForms (old new : Json) : Conversion (List Json) := do
  let after ← new.size
  let before ← old.size
  if after < before then throw (.asserted "input invs list is larger than output invs list")
  let known ← old.elements
  let learned := (← new.elements).filter fun f => !known.any (f.same ·)
  let lengths ← learned.mapM fun f =>
    match f.size? with
    | some n => pure n
    | none => fail .wrongType
  if learned.length != after - before then throw (.asserted "")
  return ((learned.zip lengths).mergeSort fun a b => a.2 ≤ b.2).map (·.1)

def newInventions (old new : List Json) : Conversion (List Json) := do
  if new.length < old.length then throw (.asserted "")
  let isStart := (Json.arr old).same (.arr (new.take old.length))
  if new.length == old.length then
    if isStart then return [] else throw (.asserted "")
  else if isStart then return new.drop old.length
  else
    throw (.asserted ("input:\n" ++ (Json.arr old).display ++ "\noutput:\n" ++ (Json.arr new).display))

end PuzzlePrograms.Library
