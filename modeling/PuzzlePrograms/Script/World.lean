import PuzzlePrograms.Extraction
import PuzzlePrograms.Json.Access
import PuzzlePrograms.Json.Layout
import PuzzlePrograms.Session

/-!
# Files and what is printed

A script reads and writes files, prints and may draw. Its world holds the files by their paths, the
folders, the folder it runs in, what has been printed and the session that draws are made in. What was done
before a problem stays done.
-/

namespace PuzzlePrograms

/-! ## 1. Paths -/

abbrev Path := List String

namespace Path

def of (s : String) : Path := (Text.split s "/").filter fun p => p != "" && p != "."

def text (p : Path) : String := if p.isEmpty then "." else String.intercalate "/" p

def parent (p : Path) : Path := p.dropLast

def name (p : Path) : String := p.getLast?.getD ""

def child (p : Path) (s : String) : Path := p ++ of s

def step (place : Path) (s : String) : Path := if s == ".." then place.dropLast else place ++ [s]

def placeFrom (folder p : Path) : Path := p.foldl step folder

end Path

def stem (s : String) : String :=
  let back := s.toList.reverse
  match back.dropWhile (· != '.') with
  | _ :: rest => if rest.isEmpty then s else String.ofList rest.reverse
  | [] => s

/-! ## 2. Worlds -/

structure World where
  files : List (Path × String) := []
  folders : List Path := []
  here : Path := []
  printed : String := ""
  session : Session := .ofSeed 0
  /-- The general source of random numbers. Recipes have a source of their own, that of the session. -/
  general : Random.Source := .ofNat 0

namespace World

def isFolder (w : World) (place : Path) : Bool :=
  place.isEmpty || w.folders.any (place.isPrefixOf ·)
    || w.files.any fun (p, _) => place.isPrefixOf p && place.length < p.length

def file? (w : World) (place : Path) : Option String := w.files.lookup place

def put (w : World) (place : Path) (text : String) : World :=
  { w with files := (place, text) :: w.files.filter (·.1 != place) }

def names (w : World) (place : Path) : List String :=
  let inside := (w.files.map (·.1) ++ w.folders).filterMap fun p =>
    if place.isPrefixOf p then p[place.length]? else none
  let all := inside.foldl (fun acc n => if acc.contains n then acc else n :: acc) []
  all.mergeSort fun a b => !(b < a)

/-- The files that are new or have another text than in `before`, in the order of their paths. -/
def changes (w before : World) : List (String × String) :=
  let changed := w.files.filter fun (p, t) => before.file? p != some t
  (changed.map fun (p, t) => (p.text, t)).mergeSort fun a b => !(b.1 < a.1)

end World

/-! ## 3. Scripts -/

abbrev Script := EStateM Problem World

instance : MonadLift Conversion Script where
  monadLift
    | .ok a => pure a
    | .error p => throw p

namespace Script

def print (s : String) : Script Unit := modify fun w => { w with printed := w.printed ++ s ++ "\n" }

def place (p : Path) : Script Path := do return Path.placeFrom (← get).here p

def readRaw (p : Path) : Script String := do
  let w ← get
  let q ← place p
  match w.file? q with
  | some t => return t
  | none => throw (if w.isFolder q then .isFolder else .noFile)

def readText (p : Path) : Script String := do
  return String.ofList (Extraction.unifyLineEnds (← readRaw p).toList)

def readJson (p : Path) : Script Json := do
  match Json.parse? (← readRaw p) with
  | some j => return j
  | none => throw .noJson

def write (p : Path) (text : String) : Script Unit := do
  let w ← get
  let q ← place p
  if w.isFolder q then throw .isFolder
  if !w.isFolder q.parent then throw .noFile
  set (w.put q text)

def isThere (p : Path) : Script Bool := do
  let w ← get
  let q ← place p
  return (w.file? q).isSome || w.isFolder q

def isFolder (p : Path) : Script Bool := do return (← get).isFolder (← place p)

def list (p : Path) : Script (List String) := do
  let w ← get
  let q ← place p
  if w.isFolder q then return w.names q
  else throw (if (w.file? q).isSome then .notFolder else .noFile)

def makeFolder (p : Path) : Script Unit := do
  let w ← get
  let q ← place p
  if w.isFolder q then return
  if (w.file? q).isSome then throw .alreadyThere
  if !w.isFolder q.parent then throw .noFile
  set { w with folders := w.folders ++ [q] }

def makeFolders (p : Path) : Script Unit := do
  let w ← get
  let q ← place p
  if (w.file? q).isSome then throw .alreadyThere
  if !w.isFolder q then set { w with folders := w.folders ++ [q] }

def draw (x : Eval α) : Script α := do
  let w ← get
  match EStateM.run x w.session with
  | .ok a s =>
    set { w with session := s }
    return a
  | .error e s =>
    set { w with session := s }
    throw (.failed e)

def seedGeneral (seed : Int) : Script Unit := modify fun w => { w with general := .ofNat seed.natAbs }

def argument (args : List String) (i : Nat) : Script String :=
  match args[i]? with
  | some s => return s
  | none => throw (.failed .outOfRange)

end Script

inductive Ending where
  | done
  | exit (code : Int)

end PuzzlePrograms
