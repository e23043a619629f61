import PuzzlePrograms.Text.Search

/-!
# Functions of a source text, one by one

A source text holds the functions of many tasks. `functionsOf` finds them by their first lines and cuts
the text apart: a function reaches up to the next line that starts another function.
-/

namespace PuzzlePrograms.Extraction

def signature : String := "(diff_lb: float, diff_ub: float) -> dict:"

def nameOf? (line : String) : Option String :=
  let start := "def generate_".toList
  let cs := line.toList
  if start.isPrefixOf cs then
    let rest := cs.drop start.length
    let isPart (c : Char) : Bool := c.isDigit || ('a' ≤ c && c ≤ 'z')
    let name := rest.takeWhile isPart
    if !name.isEmpty && signature.toList.isPrefixOf (rest.dropWhile isPart) then
      some ("generate_" ++ String.ofList name)
    else none
  else none

def startsFunction (line : String) : Bool :=
  !(line.toList.head?.any Text.isBlank) && Text.starts (Text.trim line) "def "

structure Function where
  name : String
  lines : List String

def Function.text (f : Function) : String := String.intercalate "\n" f.lines

def Function.isIncomplete (f : Function) : Bool := Text.occurs "..." f.text

def collect (current : Option Function) : List String → List Function
  | [] => current.toList
  | line :: rest =>
    let next : Option Function := (nameOf? line).map fun name => { name, lines := [line] }
    match current with
    | some f =>
      if startsFunction line then f :: collect next rest
      else collect (some { f with lines := f.lines ++ [line] }) rest
    | none => collect next rest

def functionsOf (source : String) : List Function := collect none (Text.split source "\n")

def unifyLineEnds : List Char → List Char
  | [] => []
  | '\r' :: '\n' :: cs => '\n' :: unifyLineEnds cs
  | '\r' :: cs => '\n' :: unifyLineEnds cs
  | c :: cs => c :: unifyLineEnds cs

def skipped (f : Function) : String := "Skipping incomplete function: " ++ f.name

end PuzzlePrograms.Extraction
