import PuzzlePrograms.Building
import PuzzlePrograms.Script.World

/-!
# Scripts that work on source texts

`saveFunctions` cuts a source text into its functions, `showFirst` shows the forms of one of them and
`buildFunctions` builds them all.
-/

namespace PuzzlePrograms.Script

/-! ## 1. Cutting apart -/

def expectedFunctions : Nat := 400

def extract (source folder : Path) : Script Unit := do
  makeFolders folder
  let found := Extraction.functionsOf (← readText source)
  for f in found do
    if f.isIncomplete then print (Extraction.skipped f)
    else write (folder.child (f.name ++ ".py")) f.text

def saveFunctions : Script Ending := do
  let folder := Path.of "generator_functions"
  extract (Path.of "generators.py") folder
  print ("Done! Functions saved to " ++ folder.text ++ "/")
  let n := (← list folder).length
  if n == expectedFunctions then
    print ("Output directory has the expected number of functions (" ++ toString n ++ ").")
  else
    print ("Output directory does not have the expected number of functions. Found: " ++ toString n
      ++ ", Expected: " ++ toString expectedFunctions)
  return .done

/-! ## 2. Showing one -/

def ofFlatten : Flatten.Fault → Problem
  | .source f => .source f
  | .unwritable u => .unwritable u
  | .outsideLoop => .failed .noAttribute
  | .unknownOperator => .failed .missingKey

def ofPass : Pass.Fault → Problem
  | .source f => .source f
  | .unwritable u => .unwritable u

def flattened (source : String) : Script String := do
  match ({} : Flatten.Flattener).read source with
  | .error f => throw (.source f)
  | .ok f =>
    let (r, f) := f.unparse
    for _ in List.range f.state.subscripts do print "activated"
    match r with
    | .ok t => return t
    | .error e => throw (ofFlatten e)

def showFirst : Script Ending := do
  print "d"
  let folder := Path.of "../reArc/generator_functions"
  match ← list folder with
  | [] => throw (.failed .outOfRange)
  | name :: _ =>
    let e ← flattened (← readText (folder.child name))
    print ("Original result:\n" ++ e)
    match Pass.curriedText e with
    | .ok t => print ("Transformed result:\n" ++ t)
    | .error f => throw (ofPass f)
    return .done

/-! ## 3. Building all -/

def isEnding (c : Char) : Bool := c == '.' || c == 'p' || c == 'y'

def withoutEnding (s : String) : String :=
  String.ofList (((s.toList.dropWhile isEnding).reverse.dropWhile isEnding).reverse)

def programName (file : String) : Script String :=
  match (Text.split file "_")[1]? with
  | some part => return withoutEnding part
  | none => throw (.failed .outOfRange)

/-- Build a source text and save the program. Terms without a place are counted and reported. -/
def buildFile (source : Path) (folder : Path) (name : String) (counter : Building.Counter) : Script Building.Counter :=
  do
  let e ← flattened (← readText source)
  let form ← match Pass.curriedText e with
    | .ok t => pure t
    | .error f => throw (ofPass f)
  print ("abstraction:" ++ form)
  let counter ← match Indexed.ofNamed form {} with
    | .ok p => do
      print "succes"
      write (folder.child name) p
      pure counter
    | .error p => do
      let text := p.message?.getD ""
      print "fout"
      print text
      print ("\tError transforming to Stitch | " ++ name ++ " : " ++ text)
      pure (counter.note p)
  print "\nUnhandled Node Types Summary:"
  for (kind, n) in counter do print ("  • " ++ kind ++ ": " ++ toString n)
  print ("total errors: " ++ toString counter.total)
  return counter

/-- Build all functions of a folder. A function that cannot be built is reported and left out. -/
def buildFunctions : Script Ending := do
  let source := Path.of "../reArc/test_functions/comp"
  let folder := Path.of "stitch_functions"
  makeFolders folder
  let mut counter : Building.Counter := []
  for file in ← list source do
    let name ← programName file
    let before := counter
    counter ← tryCatch (buildFile (source.child file) folder name counter) fun p => do
      print ("Error processing " ++ file ++ ": " ++ p.message?.getD "")
      return before
  return .done

end PuzzlePrograms.Script
