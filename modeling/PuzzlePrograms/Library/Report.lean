import PuzzlePrograms.Json.Arithmetic
import PuzzlePrograms.Library.Compression
import PuzzlePrograms.Number.Rounded

/-!
# Reports on abstractions

The answers of a search, one for each abstraction that it found, are kept in files:

* `firstsOnly` drops what such a file does not need;
* `merged` joins the files of a run of searches into one;
* `summary` is a table of the abstractions in the files.
-/

namespace PuzzlePrograms.Library

/-! ## 1. What is kept -/

def firstOf (key : String) (j : Json) : Conversion Json := do
  if !(← j.holds key) then return j
  match ← j.item key with
  | .arr (x :: _) => return replaceItem key x j
  | _ => return j

def lengthOf (j : Json) : Conversion Nat := do return (← j.elements).length

def at? : Json → Nat → Conversion Json
  | .arr xs, i => match xs[i]? with
    | some x => return x
    | none => fail .outOfRange
  | .str s, i => match s.toList[i]? with
    | some c => return .str (String.singleton c)
    | none => fail .outOfRange
  | .obj _, _ => fail .missingKey
  | _, _ => fail .wrongType

def firstsOnly (j : Json) : Conversion Json := do
  let j ← firstOf "original" j
  let j ← firstOf "rewritten" j
  if !(← j.holds "abstractions") then return j
  let all ← j.item "abstractions"
  let n ← lengthOf all
  if n == 0 then return j
  let kept ← (List.range n).mapM fun i => do
    let a ← at? all i
    let use ← (← a.item "uses").first
    return replaceItem "uses" use a
  return replaceItem "abstractions" (.arr kept) j

structure Facts where
  body : Json
  arity : Json
  uses : Json
  ratio : Json

def Facts.toJson (f : Facts) : Json :=
  .obj [("body", f.body), ("arity", f.arity), ("num_uses", f.uses), ("compression_ratio", f.ratio)]

def firstFacts (j : Json) : Conversion (Json × Facts) := do
  let a ← (← j.itemD "abstractions" .null).first
  let name ← a.itemD "name" .null
  let body ← a.itemD "body" .null
  let arity ← a.itemD "arity" .null
  let uses ← a.itemD "num_uses" .null
  match name with
  | .arr _ | .obj _ => fail .wrongType
  | _ => return (name, { body, arity, uses, ratio := ← j.itemD "compression_ratio" .null })

/-! ## 2. Merging -/

def fileNumber (name : String) : Conversion Int :=
  let last := (Text.split name "_").getLast?.getD ""
  match Text.int? ((Text.split last ".").head?.getD "") with
  | some i => return i
  | none => fail .badValue

def changeItem (key : String) (f : Json → Conversion Json) (j : Json) : Conversion Json := do
  let v ← f (← j.item key)
  return replaceItem key v j

def lastOf : Json → Conversion Json
  | .arr xs => match xs.getLast? with
    | some x => return x
    | none => fail .outOfRange
  | .str s => match s.toList.getLast? with
    | some c => return .str (String.singleton c)
    | none => fail .outOfRange
  | .obj _ => fail .missingKey
  | _ => fail .wrongType

def appended (x : Json) : Json → Conversion Json
  | .arr xs => return .arr (xs ++ [x])
  | _ => fail .noAttribute

def mergeNext (sum next : Json) : Conversion Json := do
  let sum ← changeItem "args" (changeItem "iterations" (·.add (.int 1))) sum
  let sum ← changeItem "num_abstractions" (·.add (.int 1)) sum
  let found ← next.item "abstractions"
  if !found.truth then return sum
  let a ← found.first
  let ratio ← sum.item "compression_ratio"
  let sum := replaceItem "compression_ratio" (← ratio.mul (← a.item "compression_ratio")) sum
  let last ← lastOf (← sum.item "abstractions")
  let before ← last.item "cumulative_compression_ratio"
  let a ← changeItem "cumulative_compression_ratio" (·.mul before) a
  changeItem "abstractions" (appended a) sum

def byNumber (files : List (String × α)) : Conversion (List (String × α)) := do
  let keyed ← files.mapM fun f => do return (← fileNumber f.1, f)
  return (keyed.mergeSort fun a b => a.1 ≤ b.1).map (·.2)

def mergeEnd (sum last : Json) : Conversion Json := do
  let cost ← last.item "final_cost"
  match sum with
  | .obj _ => return replaceItem "final_cost" cost sum
  | _ => fail .wrongType

def merged (files : List (String × Json)) : Conversion Json := do
  match ← byNumber files with
  | [] => fail .outOfRange
  | (_, start) :: rest =>
    let sum ← rest.foldlM (fun sum (_, j) => mergeNext sum j) start
    match rest.getLast? with
    | none => fail .unsetVariable
    | some (_, last) => mergeEnd sum last

/-! ## 3. The summary -/

abbrev FactTable := List (Json × Facts)

def FactTable.add (t : FactTable) (j : Json) : Conversion FactTable := do
  let (name, facts) ← firstFacts j
  if t.any fun e => e.1.same name then
    return t.map fun e => if e.1.same name then (e.1, facts) else e
  else return t ++ [(name, facts)]

def factOrder (name : String) : Conversion Int :=
  if Text.starts name "fn_" then
    match (Text.split name "_")[1]?.bind Text.int? with
    | some i => return i
    | none => fail .badValue
  else return 0

def padRight (width : Nat) (s : String) : String := s ++ String.ofList (List.replicate (width - s.length) ' ')

def cell (width : Nat) : Json → Conversion String
  | .str s => return padRight width s
  | .bool b => return padRight width (if b then "1" else "0")
  | .int i => return padRight width (toString i)
  | .float x => return padRight width (Decimal.Layout.source.text x)
  | _ => fail .wrongType

def ratioCell (width : Nat) : Json → Conversion String
  | .str _ => fail .badValue
  | j => match j.float? with
    | some x => return padRight width (Decimal.fixed 2 x)
    | none => fail .wrongType

structure Columns where
  name : Nat
  arity : Nat
  uses : Nat

def ratioWidth : Nat := 12

def factStart (c : Columns) (name : String) (f : Facts) : Conversion String := do
  let arity ← cell c.arity f.arity
  let ratio ← ratioCell ratioWidth f.ratio
  let uses ← cell c.uses f.uses
  return padRight c.name name ++ "\t\t| " ++ arity ++ "\t\t| " ++ ratio ++ "\t| " ++ uses ++ "\t| "

def factBody (c : Columns) (ruler : Nat) (f : Facts) : Conversion String := do
  let lines := Text.split (← f.body.string) "\n"
  let indent := String.ofList (List.replicate (c.name + 3 + c.arity + 3 + ratioWidth + 3 + c.uses + 3) ' ')
  return lines.head?.getD "" ++ "\n" ++ String.join (lines.tail.map fun l => indent ++ l ++ "\n")
    ++ String.ofList (List.replicate ruler '-') ++ "\n"

structure Report where
  text : String
  problem? : Option Problem := none

def Report.add (r : Report) (part : Conversion String) : Report :=
  match r.problem?, part with
  | none, .ok s => { r with text := r.text ++ s }
  | none, .error p => { r with problem? := some p }
  | some _, _ => r

def widest (ws : List Nat) : Conversion Nat :=
  match ws.max? with
  | some w => return w
  | none => fail .badValue

def FactTable.report (facts : FactTable) : Conversion Report := do
  let keyed ← facts.mapM fun (name, f) => do
    let name ← name.string
    return (← factOrder name, name, f)
  let sorted := keyed.mergeSort fun a b => a.1 ≤ b.1
  let c : Columns :=
    { name := ← widest (sorted.map fun (_, n, _) => n.length)
      arity := ← widest (facts.map fun (_, f) => f.arity.shown.length)
      uses := ← widest (facts.map fun (_, f) => f.uses.shown.length) }
  let header := padRight c.name "FUNCTION" ++ "\t| " ++ padRight c.arity "ARITY" ++ "\t| "
    ++ padRight ratioWidth "COMPRESSION" ++ "\t| " ++ padRight c.uses "USES" ++ "\t| BODY"
  let start := header ++ "\n" ++ String.ofList (List.replicate header.length '=') ++ "\n"
  return sorted.foldl (fun r (_, name, f) =>
    (r.add (factStart c name f)).add (factBody c header.length f)) { text := start }

def summary (files : List (String × Json)) : Conversion String := do
  let sorted := files.mergeSort fun a b => !(b.1 < a.1)
  let facts ← sorted.foldlM (fun t (_, j) => FactTable.add t j) []
  let r ← FactTable.report facts
  match r.problem? with
  | none => return r.text
  | some p => throw p

end PuzzlePrograms.Library
