import PuzzlePrograms.Library.Report
import PuzzlePrograms.Script.World

/-!
# Scripts that work on abstractions

`searchAll` runs the search for abstractions several times, each time on the programs that the search
before it left; `summarize` and `mergeAll` work on the answers that are kept in files.
-/

namespace PuzzlePrograms.Script

def readAll (folder : Path) (read : Path → Script α) : Script (List (String × α)) := do
  (← list folder).mapM fun name => do return (name, ← read (folder.child name))

def searchRounds : Nat := 5

def searchAll (reply : Library.Reply) : Script Ending := do
  let _ ← readAll (Path.of "stitch_functions") readText
  let folder := Path.of "stitch_outputs"
  makeFolders folder
  print "Compressing..."
  for i in List.range searchRounds do
    let found ← Library.Compression.ofJson (← reply.answer)
    let kept ← Library.firstsOnly found.json
    write (folder.child ("stitch_output_" ++ toString (i + 1) ++ ".json")) kept.pageText
  return .done

def answers : Path := Path.of "stitch_outputs_200"

def summarize : Script Ending := do
  let facts ← (← list answers).foldlM (fun t name => do
    Library.FactTable.add t (← readJson (answers.child name))) []
  let report ← Library.FactTable.report facts
  let target := Path.of "abstraction_summary.txt"
  write target report.text
  match report.problem? with
  | some p => throw p
  | none =>
    print ("Enhanced abstraction summary written to " ++ target.text)
    return .done

def mergeAll : Script Ending := do
  let names ← list answers
  match ← Library.byNumber (names.map fun n => (n, ())) with
  | [] => throw (.failed .outOfRange)
  | (start, _) :: rest =>
    let start ← readJson (answers.child start)
    let (sum, last?) ← rest.foldlM (fun (sum, _) (name, _) => do
      let next ← readJson (answers.child name)
      return (← Library.mergeNext sum next, some next)) (start, none)
    let merged ← match last? with
      | none => throw (.failed .unsetVariable)
      | some last => Library.mergeEnd sum last
    print ("Successfully merged " ++ toString names.length ++ " files")
    let target := answers.child "merged_output.json"
    write target merged.pageText
    print ("Saved merged data to " ++ target.text)
    return .done

end PuzzlePrograms.Script
