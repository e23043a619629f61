import PuzzlePrograms.Draw.CommandLine
import PuzzlePrograms.Script.Abstractions
import PuzzlePrograms.Script.Benchmarks
import PuzzlePrograms.Script.Datasets
import PuzzlePrograms.Script.Functions

/-!
# The command line

`draw ARGS` makes a draw. Every other command is a script: `ROOT HERE SCRIPT ARGS` runs a script in the
folder `HERE` of the tree of files at `ROOT`. The tree is read before the script starts; what the script
has printed and written is put out after it has ended, also if it has ended with a problem.
-/

namespace PuzzlePrograms.CommandLine

/-! ## 1. Commands -/

def script? : List String → Option (Script Ending)
  | ["first"] => some Script.showFirst
  | ["save"] => some Script.saveFunctions
  | ["build"] => some Script.buildFunctions
  | ["search", answer] => some do
    Script.searchAll (.returns (← Script.readJson (Path.of answer)))
  | ["summary"] => some Script.summarize
  | ["merge"] => some Script.mergeAll
  | "benchmark" :: args => some (Script.benchmark args)
  | "dataset" :: folder :: count :: seed :: tasks => do
    let n ← count.toNat?
    let s ← seed.toNat?
    return do
      modify fun w => { w with session := .ofSeed s }
      Script.generateDataset (Path.of folder) s tasks n (.int 0) (.int 1)
  | ["examples", task, count, seed] => do
    let n ← count.toNat?
    let s ← seed.toNat?
    return do
      modify fun w => { w with session := .ofSeed s }
      Script.showGenerator task n
  | "check" :: tasks => some (Script.checkVerifiers tasks)
  | _ => none

def drawnText : Value → String
  | .str s => s
  | .int i => toString i
  | .float x => (Scalar.float x).text
  | _ => ""

def drawText (seed : Nat) (args : List String) : Option String := do
  let request ← Draw.Request.ofArgs args
  match (request.answer "draw").run (.ofSeed seed) with
  | .ok v _ => some (drawnText v)
  | .error _ _ => none

def problemText (p : Problem) : String := (p.message?).getD "the script stopped"

/-! ## 2. Files -/

partial def load (folder : String) (place : Path) : IO (List (Path × String) × List Path) := do
  let entries ← (System.mkFilePath [folder]).readDir
  let mut files := []
  let mut folders := [place]
  for e in entries do
    let inside := place ++ [e.fileName]
    let path := folder ++ "/" ++ e.fileName
    if ← (System.mkFilePath [path]).isDir then
      let (fs, ds) ← load path inside
      files := files ++ fs
      folders := folders ++ ds
    else
      try
        files := files ++ [(inside, ← IO.FS.readFile path)]
      catch _ => pure ()
  return (files, folders)

def store (root : String) (files : List (String × String)) : IO Unit := do
  for (path, text) in files do
    let whole := root ++ "/" ++ path
    if let some parent := (System.mkFilePath [whole]).parent then IO.FS.createDirAll parent
    IO.FS.writeFile whole text

def runScript (root here : String) (s : Script Ending) : IO UInt32 := do
  let (files, folders) ← load root []
  let before : World := { files, folders, here := Path.of here }
  match s.run before with
  | .ok ending after =>
    IO.print after.printed
    store root (after.changes before)
    match ending with
    | .done => return 0
    | .exit code => return code.toNat.toUInt32
  | .error p after =>
    IO.print after.printed
    store root (after.changes before)
    IO.eprintln (problemText p)
    return 1

end PuzzlePrograms.CommandLine

open PuzzlePrograms.CommandLine in
def main (args : List String) : IO UInt32 := do
  match args with
  | "draw" :: rest =>
    match drawText (← IO.monoNanosNow) rest with
    | some t =>
      IO.println t
      return 0
    | none => return 2
  | root :: here :: command =>
    match script? command with
    | some s => runScript root here s
    | none => return 2
  | _ => return 2
