import PuzzlePrograms.Json.Arithmetic
import PuzzlePrograms.Library.Invention
import PuzzlePrograms.Script.World
import PuzzlePrograms.Text.Real

/-!
# Benchmarks of the search for abstractions

A group of benchmarks is a folder with files of programs and a folder for each run of a search on them.
`measure` works out what a run achieved, on the files that it left; the other scripts prepare, list and
compare.
-/

namespace PuzzlePrograms.Script

attribute [local instance] natZero intZero

def require (condition : Bool) (text : String) : Script Unit := if condition then pure () else throw (.asserted text)

def save (j : Json) (p : Path) : Script Unit := do
  write p j.pageText
  print ("wrote " ++ p.text)

def lastPart (s : String) : String := (Text.split s " ").getLast?.getD ""

def whole (s : String) : Script Int :=
  match Text.int? s with
  | some i => return i
  | none => throw (.failed .badValue)

def number (s : String) : Script Float :=
  match Text.real? s with
  | some x => return x
  | none => throw (.failed .badValue)

def float (i : Int) : Script Float :=
  match Binary64.ofInt i with
  | some x => return x
  | none => throw (.failed .overflow)

/-! ## 1. Runs -/

inductive Engine where
  | written | named
  deriving DecidableEq

def Engine.ofWord? : String → Option Engine
  | "dreamcoder" => some .written
  | "stitch" => some .named
  | _ => none

def Engine.word : Engine → String
  | .written => "dreamcoder"
  | .named => "stitch"

def Engine.folder : Engine → String
  | .written => "dc"
  | .named => "stitch"

/-- Where a line starts that tells the time of a search, without and with what follows the search. -/
def Engine.timeMarks : Engine → String × String
  | .written => ("Timing Comparison Point A (vspace+beam) (millis):",
      "Timing Comparison Point B (vspace+beam+batched_rewrite) (millis):")
  | .named => ("Timing Comparison Point A (search) (millis):",
      "Timing Comparison Point B (search+rewrite) (millis):")

def threeDigits (n : Nat) : String :=
  let ds := toString n
  String.ofList (List.replicate (3 - ds.length) '0') ++ ds

def benchmarks (group : Path) : Script (List String) := do
  let all ← if ← isFolder group then list group else pure []
  let names := (all.filter fun n => Text.starts n "bench" && Text.ends n ".json").map stem
  require (!names.isEmpty) ""
  let names := names.mergeSort fun a b => !(b < a)
  for (n, i) in names.zipIdx do require (Text.starts n ("bench" ++ threeDigits i)) ""
  return names

/-! ## 2. What a run achieved -/

def onlyLine (lines : List String) (part : String) : Script String :=
  match lines.filter (Text.occurs part) with
  | [l] => return l
  | _ => throw (.failed .badValue)

def seconds (s : String) : Script Float := do
  match Text.split s ":" with
  | [m, s] => do
    let m ← whole m
    let s ← number s
    return (← float (m * 60)) + s
  | [h, m, s] => do
    let h ← whole h
    let m ← whole m
    let s ← number s
    return (← float (h * 3600 + m * 60)) + s
  | _ => throw (.asserted "")

def times (lines : List String) (mark : String) : Script (List Int) :=
  (lines.filter fun l => Text.starts l mark).mapM fun l =>
    match (Text.split l ":")[1]? with
    | some part => whole (Text.trim part)
    | none => throw (.failed .outOfRange)

def mean (xs : List Int) : Conversion Float := Json.quotient xs.sum xs.length

def frontiers (j : Json) : Conversion (List (List String)) := do
  (← (← j.item "frontiers").elements).mapM fun f => do
    (← (← f.item "programs").elements).mapM fun p => do (← p.item "program").string

def smallest (tasks : List (List String)) : Conversion Nat := do
  let sizes ← tasks.mapM fun ps =>
    match (ps.map Library.programSize).min? with
    | some n => pure n
    | none => fail .badValue
  return sizes.sum

def compressionRatio (before after : List (List String)) (inventions : List Json) : Conversion Float := do
  let sizes ← inventions.mapM fun i => do
    return Library.programSize (← (← i.item "stitch_canonical").string)
  let a ← smallest before
  let b ← smallest after
  Json.quotient a (b + sizes.sum : Nat)

structure Achieved where
  ratio : Float
  inventions : List Json

def achievedWritten (input output : Path) : Script Achieved := do
  let before ← readJson input
  let oldForms := (← Library.writtenOutForms before).map .str
  let after ← readJson output
  let newForms := (← Library.writtenOutForms after).map .str
  let old ← Library.inventionsOf (.arr oldForms) none
  let learned ← Library.newForms (.arr oldForms) (.arr newForms)
  let all ← Library.inventionsOf (.arr learned) (some old)
  let new ← Library.newInventions old all
  let tasksBefore ← frontiers before
  let tasksAfter ← frontiers after
  let tasksBefore ← tasksBefore.mapM fun ps =>
    (ps.mapM (Library.shortProgram · old) : Conversion (List String))
  let tasksAfter ← tasksAfter.mapM fun ps =>
    (ps.mapM (Library.shortProgram · all) : Conversion (List String))
  return { ratio := ← compressionRatio tasksBefore tasksAfter new, inventions := new }

def distribute (programs : List Json) : List (List String) → Conversion (List (List Json) × List Json)
  | [] => return ([], programs)
  | t :: ts => do
    if programs.length < t.length then fail .outOfRange
    let (rest, left) ← distribute (programs.drop t.length) ts
    return (programs.take t.length :: rest, left)

def achievedNamed (input output : Path) : Script Achieved := do
  let before ← readJson input
  let old ← Library.inventionsOf (.arr ((← Library.writtenOutForms before).map .str)) none
  let after ← readJson output
  let new ← Library.inventionsOfResult after
  let tasksBefore ← frontiers before
  let tasksBefore ← tasksBefore.mapM fun ps =>
    (ps.mapM (Library.shortProgram · old) : Conversion (List String))
  let programs ← (← after.item "rewritten").elements
  let (tasksAfter, left) ← distribute programs tasksBefore
  require left.isEmpty ""
  let tasksAfter ← tasksAfter.mapM fun ps =>
    (ps.mapM Json.string : Conversion (List String))
  let ratio ← compressionRatio tasksBefore tasksAfter new
  let cost ← after.statedItem "original_cost"
  require (cost.same (.int (← smallest tasksBefore))) ""
  return { ratio, inventions := new }

def measureOne (engine : Engine) (run group : Path) (bench : String) : Script Json := do
  let raw := (run.child "raw").child (bench ++ ".json")
  let _ ← readJson raw
  let lines := Text.split (← readText ((run.child "stderr").child (bench ++ ".stderr"))) "\n"
  let elapsed ← seconds (lastPart (← onlyLine lines "Elapsed (wall clock) time"))
  let memory ← whole (lastPart (← onlyLine lines "Maximum resident set size (kbytes)"))
  let input := group.child (bench ++ ".json")
  let achieved ← match engine with
    | .written => achievedWritten input raw
    | .named => achievedNamed input raw
  let n := achieved.inventions.length
  let trim (ts : List Int) : List Int := if engine == .written && ts.length == n + 1 then ts.dropLast else ts
  let alone ← times lines engine.timeMarks.1
  let full ← times lines engine.timeMarks.2
  let alone := trim alone
  let full := trim full
  require (alone.length == n) (toString alone.length ++ " != " ++ toString n)
  require (full.length == n) (toString full.length ++ " != " ++ toString n)
  let (fullMean, aloneMean) ← if n == 0 then pure (Json.int 0, Json.int 0)
    else do
      let f ← mean full
      let a ← mean alone
      pure (Json.float f, Json.float a)
  return .obj [("bench_group", .str group.name), ("bench", .str bench), ("mode", .str engine.word),
    ("run", .str run.text),
    ("metrics", .obj [("time_binary_seconds", .float elapsed),
      ("time_per_inv_with_rewrite", fullMean), ("time_per_inv_no_rewrite", aloneMean),
      ("mem_peak_kb", .int memory), ("compression_ratio", .int 0), ("absolute_compression", .int 0),
      ("compression_ratio_min", .float achieved.ratio)]),
    ("num_inventions", .int n), ("inventions", .arr achieved.inventions)]

def measure (args : List String) : Script Ending := do
  let word ← argument args 1
  match Engine.ofWord? word with
  | none => throw (.asserted "")
  | some engine =>
    let run := Path.of (← argument args 2)
    let raw := run.child "raw"
    let processed := run.child "processed"
    if !(← isThere raw) then
      print ("Can't find raw/ directory, did you provide a path like "
        ++ "benches/bench_name/out/dc/2021-03-02_00-00-00/ ?")
    if !(← isThere processed) then makeFolder processed
    let group := run.parent.parent.parent
    for bench in ← benchmarks group do
      let file := raw.child (bench ++ ".json")
      let isMissing ← do
        if ← isThere file then
          if ← isFolder file then pure false else pure (← readRaw file).isEmpty
        else pure true
      if !isMissing then
        print ("processing " ++ bench)
        save (← measureOne engine run group bench) (processed.child (bench ++ ".json"))
    return .done

/-! ## 3. Listing and comparing -/

def inputFiles (args : List String) : Script Ending := do
  let folder := Path.of (← argument args 1)
  let j ← readJson (folder.child "invention_info/info.json")
  let names ← (← j.elements).mapM fun x => (x.item "in_file" : Conversion Json)
  for n in names do print n.shown
  return .done

def isBelow (a b : Json) : Conversion Bool :=
  match a, b with
  | .str s, .str t => return s < t
  | a, b =>
    match a.whole?, b.whole? with
    | some i, some j => return i < j
    | _, _ =>
      match a.float?, b.float? with
      | some x, some y => return x < y
      | _, _ => fail .wrongType

def printMembers (j : Json) : Script Unit := do
  match j with
  | .obj ms => for (k, v) in ms do print (k ++ ": " ++ v.shown)
  | _ => throw (.failed .noAttribute)

def compareResults (args : List String) : Script Ending := do
  let folder := Path.of (← argument args 1)
  let named ← readJson (folder.child "stitch/invention_info/info.json")
  let written ← readJson (folder.child "invention_info/info.json")
  let key := "compressive_utility"
  for ((s, d), i) in ((← named.elements).zip (← written.elements)).zipIdx do
    require ((← s.statedItem "name").same (← d.statedItem "name")) ""
    require ((← s.statedItem "in_file").same (← d.statedItem "in_file")) ""
    let a ← s.item key
    let b ← d.item key
    if a.same b then print (toString i ++ ": exact match for " ++ key)
    else if ← isBelow a b then
      print (toString i ++ ": WARNING STITCH IS WORSE IN " ++ key)
      print "===STITCH==="
      printMembers s
      print "===DREAMCODER==="
      printMembers d
  return .done

def budget (args : List String) : Script Ending := do
  let other ← argument args 1
  if other == "none" then print "20"
  else
    let bench := Path.of (← argument args 2)
    require (Text.ends bench.text ".json") ""
    let file := ((Path.of other).child "processed").child bench.name
    if ← isThere file then print (← (← readJson file).item "num_inventions").shown
    else print "0"
  return .exit 0

def latest (args : List String) : Script Ending := do
  let word ← argument args 1
  let all := Path.of (← argument args 2)
  let groups ← list all
  match Engine.ofWord? word with
  | none => throw (.asserted "")
  | some engine =>
    let found ← groups.filterMapM fun g => do
      let target := ((all.child g).child "out").child engine.folder
      if !(← isThere target) then return none
      let names ← list target
      if names.isEmpty then return none
      match (← names.filterM fun n => isFolder (target.child n)).getLast? with
      | some n => return some (target.child n)
      | none => throw (.failed .outOfRange)
    for p in found do print p.text
    return .done

/-! ## 4. Preparing -/

def groupLimit : Nat := 20

/-- Prepare groups from the files of several searches. Which searches there are is not known. -/
def prepareAll : Script Ending := do
  makeFolder (Path.of "benches/logo_all")
  throw .unboundName

def prepareTwo : Script Ending := do
  let stamp := "2019-07-11T19:49:10.899159"
  let source := Path.of ("data/rec-fp/iteration=10_" ++ stamp)
  let four := Path.of ("benches/rec-fp_arity4_" ++ stamp)
  let three := Path.of ("benches/rec-fp_arity3_" ++ stamp)
  makeFolder four
  makeFolder three
  for i in List.range groupLimit do
    let file := source.child ("iteration_" ++ toString i ++ ".json")
    if !(← isThere file) then return .done
    let name := "bench" ++ threeDigits i ++ "_it" ++ toString i ++ ".json"
    write (four.child name) (← readRaw file)
    match ← readJson file with
    | .obj ms => save (.obj (Json.put "arity" (.int 3) ms)) (three.child name)
    | _ => throw (.failed .wrongType)
  return .done

/-! ## 5. Reading reports -/

def lineAt (lines : Array String) (i : Nat) : Script String :=
  match lines[i]? with
  | some l => return l
  | none => throw (.failed .outOfRange)

def seek (lines : Array String) (start : String) : Nat → Nat → Script Nat
  | 0, _ => throw (.failed .outOfRange)
  | fuel + 1, i => do
    if Text.starts (← lineAt lines i) start then return i else seek lines start fuel (i + 1)

/-- Print the uses of an invention from a place on; the result is the place after them and their number. -/
def printUses (lines : Array String) (invention name : String) : Nat → Nat → Nat → Script (Nat × Nat)
  | 0, i, n => return (i, n)
  | fuel + 1, i, n => do
    let line := Text.trim (← lineAt lines i)
    if Text.starts line "(" then
      require (Text.occurs invention (← lineAt lines i)) ""
      print (Text.replace line invention name)
      printUses lines invention name fuel (i + 1) (n + 1)
    else return (i, n)

def printInvention (lines : Array String) (i number : Nat) : Script Nat := do
  let name := "fn_" ++ toString number
  let invention := Text.trim ((Text.split (← lineAt lines i) ":").head?.getD "")
  print ("Invention " ++ name ++ ": " ++ invention)
  let i ← seek lines "New primitive is used" (lines.size + 1) i
  let n ← match (Text.split (← lineAt lines i) " ")[4]? with
    | some w => whole w
    | none => throw (.failed .outOfRange)
  print ("usages: " ++ toString n)
  match lines[i + 1]? with
  | none => throw (.stated .outOfRange "list index out of range")
  | some line => require (Text.starts line "Here is where it is used") ""
  let (i, count) ← printUses lines invention name (lines.size + 1) (i + 2) 0
  require ((count : Int) == n) ""
  print ""
  return i

def printInventions (lines : Array String) : Nat → Nat → Nat → Script Unit
  | 0, _, _ => return
  | fuel + 1, i, number => do
    if Text.starts (← lineAt lines i) "Improved score to" then
      let i ← printInvention lines (i + 1) number
      printInventions lines fuel i (number + 1)
    else if i + 1 < lines.size then printInventions lines fuel (i + 1) number
    else return

def showUses (args : List String) : Script Ending := do
  let lines := (Text.split (← readText (Path.of (← argument args 1))) "\n").toArray
  printInventions lines (lines.size + 1) 0 0
  return .done

/-- The things in the folders of a list, by a pattern: a name, or anything that is not hidden. -/
def matching (folders : List Path) (pattern : Option String) : Script (List Path) := do
  let found ← folders.mapM fun f => do
    if !(← isFolder f) then return []
    match pattern with
    | some name => return if ← isThere (f.child name) then [f.child name] else []
    | none => return ((← list f).filter fun n => !Text.starts n ".").map f.child
  return found.flatten

/-- Print the depths in the reports of all runs: each that is greater than those before it, and after each
    report the mean of all so far. -/
def countDepths : Script Ending := do
  let pattern := [some "benches", none, some "out", some "stitch", none, some "stderr", none]
  let files ← pattern.foldlM matching [([] : Path)]
  let mut depths : List Int := []
  let mut greatest : Int := 0
  for file in files do
    for line in (Text.split (← readText file) "\n").filter (Text.occurs "max depth:") do
      let n ← whole (lastPart line)
      depths := n :: depths
      if greatest < n then
        print (toString n)
        greatest := n
    print ("Avg " ++ Decimal.Layout.source.text (← mean depths))
  return .done

/-! ## 6. All -/

def benchmark (args : List String) : Script Ending := do
  let mode ← argument args 0
  match mode with
  | "to_input_files" => inputFiles args
  | "compare" => compareResults args
  | "process" => measure args
  | "iteration_budget" => budget args
  | "artifact_to_bench" => prepareAll
  | "artifact_rec-fp" => prepareTwo
  | "latest" => latest args
  | "show_usages" => showUses args
  | "count" => countDepths
  | mode => throw (.asserted ("mode not recognized: " ++ mode))

end PuzzlePrograms.Script
