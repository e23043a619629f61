import PuzzlePrograms.Json.Access
import PuzzlePrograms.Tree

/-!
# Abstractions

An abstraction is a named piece of program with numbered holes: `f(#0,#1) := (+ 3 (* #1 #0))`. Another
notation leaves abstractions without names: where one is used it is written out after a sharp, as a
function of as many parameters as it has holes, `#(lambda (lambda (+ 3 (* $0 $1))))`, and functions are
marked with a longer word. A `NameTable` pairs the names with the written-out form.

* `NameTable.shorten` puts names in place of written-out abstractions, `NameTable.expand` goes back;
* `Abstraction.ofWrittenOut` takes an abstraction that is written out apart.
-/

namespace PuzzlePrograms.Library

/-! ## 1. Abstractions -/

structure Abstraction where
  name : String
  body : String
  arity : Int
  deriving DecidableEq, Repr

def Abstraction.of (name body : String) (arity : Int) : Conversion Abstraction :=
  if Text.starts body "#" then
    throw (.asserted
      "This abstractions is in dreamcoder format – use Abstraction.from_dreamcoder() instead")
  else return ⟨name, body, arity⟩

def asInt (j : Json) : Conversion Int :=
  match j.whole? with
  | some i => return i
  | none => fail .wrongType

def Abstraction.ofParts (name body arity : Json) : Conversion Abstraction := do
  let a ← Abstraction.of name.shown (← body.stringFor "startswith") 0
  return { a with arity := ← asInt arity }

def Abstraction.text (a : Abstraction) : String :=
  let holes := (List.range a.arity.toNat).map fun i => "#" ++ toString i
  a.name ++ "(" ++ String.intercalate "," holes ++ ") := " ++ a.body

/-! ## 2. Names for abstractions -/

abbrev NameTable := List (String × String)

def NameTable.shorten (table : NameTable) (s : String) : Conversion String :=
  let s := table.reverse.foldl (fun t (name, form) => Text.replace t form name) s
  if Text.occurs "#" s then throw (.asserted "") else return Text.replace s "(lambda " "(lam "

/-- Put a word in place of another wherever it stands between brackets and blanks. A program that is an
    application without brackets is refused, and so is a program in which the word is left. -/
def replaceName (s name new : String) : Conversion String :=
  let s := Text.replace s (" " ++ name ++ ")") (" " ++ new ++ ")")
  let s := Text.replace s ("(" ++ name ++ " ") ("(" ++ new ++ " ")
  let between := " " ++ name ++ " "
  let s := Text.replace (Text.replace s between (" " ++ new ++ " ")) between (" " ++ new ++ " ")
  let s := if s == name then new else s
  if Text.starts s (name ++ " ") || Text.ends s (" " ++ name) || Text.occurs between s
      || Text.occurs ("(" ++ name ++ " ") s || Text.occurs (" " ++ name ++ ")") s || s == name then
    throw (.asserted "")
  else return s

def NameTable.expand (table : NameTable) (s : String) : Conversion String :=
  table.reverse.foldlM (fun t (name, form) => replaceName t name form)
    (Text.replace s "(lam " "(lambda ")

mutual

def NameTable.shortenAll (table : NameTable) : Json → Conversion Json
  | .str s => return .str (← table.shorten s)
  | .arr xs => return .arr (← shortenEach table xs)
  | j =>
    if table.isEmpty then
      match j.holds? "#" with
      | some true => throw (.asserted "")
      | some false => fail .noAttribute
      | none => notSearchable j.typeName
    else fail .noAttribute

def shortenEach (table : NameTable) : List Json → Conversion (List Json)
  | [] => return []
  | x :: xs => do
    let y ← table.shortenAll x
    return y :: (← shortenEach table xs)

end

mutual

def NameTable.expandAll (table : NameTable) : Json → Conversion Json
  | .str s => return .str (← table.expand s)
  | .arr xs => return .arr (← expandEach table xs)
  | _ => fail .noAttribute

def expandEach (table : NameTable) : List Json → Conversion (List Json)
  | [] => return []
  | x :: xs => do
    let y ← table.expandAll x
    return y :: (← expandEach table xs)

end

/-! ## 3. Abstractions that are written out -/

def isBinder (t : Tree) : Bool := t.isWord "lambda" || t.isWord "lam"

def stripBinders : Tree → Conversion (Tree × Nat)
  | .node [h, b] =>
    if isBinder h then do
      let (t, n) ← stripBinders b
      return (t, n + 1)
    else return (.node [h, b], 0)
  | .node (h :: ts) =>
    if isBinder h then
      throw (.asserted "lambda should only take one argument (the body)")
    else return (.node (h :: ts), 0)
  | t => return (t, 0)

/-- A variable that counts to one of `arity` functions around a body becomes a hole; the outermost function
    is hole 0. -/
def holeOf (depth arity : Int) (w : String) : Conversion String :=
  if Text.starts w "$" then
    match Text.int? (Text.dropFirst w 1) with
    | none => fail .badValue
    | some i =>
      if i < depth then return w
      else
        let hole := arity - (i - depth) - 1
        if hole < 0 then throw .freeVariables else return "#" ++ toString hole
  else return w

mutual

def withHoles (depth arity : Int) : Tree → Conversion Tree
  | .word w => return .word (← holeOf depth arity w)
  | .scalar _ => throw (.asserted "")
  | .node [] => return .node []
  | .node (h :: ts) =>
    if isBinder h then do return .node (h :: (← allWithHoles (depth + 1) arity ts))
    else do
      let h ← withHoles depth arity h
      return .node (h :: (← allWithHoles depth arity ts))

def allWithHoles (depth arity : Int) : List Tree → Conversion (List Tree)
  | [] => return []
  | t :: ts => do
    let t ← withHoles depth arity t
    return t :: (← allWithHoles depth arity ts)

end

def Abstraction.ofWrittenOut (name form : String) (table : NameTable) : Conversion Abstraction := do
  if !Text.starts form "#" then throw (.asserted "")
  let t ← Tree.readWhole (← table.shorten (Text.dropFirst form 1))
  let (t, arity) ← stripBinders t
  let body ← (← withHoles 0 arity t).shown?
  let body := body.getD ""
  if Text.occurs "#" body then throw (.asserted "")
  Abstraction.of name body arity

/-! ## 4. Tables of names -/

def byLength (xs : List String) : List String := xs.mergeSort fun a b => a.length ≤ b.length

def writtenOutForms (j : Json) : Conversion (List String) := do
  let productions ← (← (← j.item "DSL").item "productions").elements
  let forms ← productions.mapM fun p => do (← p.item "expression").string
  return byLength (forms.filter (Text.starts · "#"))

def NameTable.ofLanguage (j : Json) : Conversion NameTable := do
  j.mustHold "DSL" "This is not a dreamcoder json output"
  let forms ← writtenOutForms j
  return forms.zipIdx.map fun (f, i) => ("dreamcoder_abstraction_" ++ toString i, f)

def namesOfResult (j : Json) : Conversion (List (Json × Json)) := do
  j.mustHold "abstractions" "This is not a stitch json output"
  (← (← j.item "abstractions").elements).mapM fun a => do
    return (← a.item "name", ← a.item "dreamcoder")

/-- Programs, the tasks they belong to and the names of abstractions, taken from a language with its
    solved tasks. -/
structure Corpus where
  programs : List Json
  tasks : List Json
  names : NameTable

def Corpus.ofLanguage (j : Json) : Conversion Corpus := do
  let names ← NameTable.ofLanguage j
  let frontiers ← (← j.item "frontiers").elements
  let entries ← frontiers.zipIdx.mapM fun (f, i) => do
    (← (← f.item "programs").elements).mapM fun p => do
      let program ← names.shortenAll (← p.item "program")
      return (program, ← f.itemD "task" (.str (toString i)))
  let entries := entries.flatten
  return { programs := entries.map (·.1), tasks := entries.map (·.2), names }

end PuzzlePrograms.Library
