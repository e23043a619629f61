import PuzzlePrograms.Json
import PuzzlePrograms.Text.Search
import PuzzlePrograms.Text.SmallLetter

/-!
# Reading numbers with a fraction

A number may have a sign, a fraction and an exponent; low lines may stand between its digits and blanks
around it. The words for infinity and for what is no number are read in any case.
-/

namespace PuzzlePrograms.Text

def commonDigit (c : Char) : Char :=
  match decimal? c with
  | some d => Char.ofNat (48 + d)
  | none => c

def withoutLowLines? (before : Bool) : List Char → Option (List Char)
  | [] => some []
  | '_' :: c :: cs =>
    if before && c.isDigit then (withoutLowLines? true cs).map (c :: ·) else none
  | ['_'] => none
  | c :: cs => (withoutLowLines? c.isDigit cs).map (c :: ·)

def exponentOf? : List Char → Option Int
  | [] => some 0
  | c :: cs =>
    if c == 'e' || c == 'E' then
      match cs with
      | '-' :: ds => (unsigned? ds).map fun n => -(n : Int)
      | '+' :: ds => (unsigned? ds).map fun n => (n : Int)
      | ds => (unsigned? ds).map fun n => (n : Int)
    else none

def unsignedReal? (cs : List Char) : Option Float :=
  let whole := cs.takeWhile Char.isDigit
  let rest := cs.dropWhile Char.isDigit
  let (fraction, rest) := match rest with
    | '.' :: rest => (rest.takeWhile Char.isDigit, rest.dropWhile Char.isDigit)
    | rest => ([], rest)
  if whole.isEmpty && fraction.isEmpty then none
  else do
    let e ← exponentOf? rest
    let digits ← unsigned? (whole ++ fraction)
    return Json.decimal digits (e - fraction.length)

def unsignedRealOrWord? (cs : List Char) : Option Float :=
  match String.ofList (cs.map Char.toLower) with
  | "inf" | "infinity" => some (1.0 / 0.0)
  | "nan" => some (0.0 / 0.0)
  | _ => unsignedReal? cs

def real? (s : String) : Option Float := do
  match ← withoutLowLines? false ((trimBlanks s.toList).map commonDigit) with
  | '-' :: cs => (unsignedRealOrWord? cs).map fun x => -x
  | '+' :: cs => unsignedRealOrWord? cs
  | cs => unsignedRealOrWord? cs

end PuzzlePrograms.Text
