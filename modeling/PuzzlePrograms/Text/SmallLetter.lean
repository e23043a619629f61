import PuzzlePrograms.Text.CharClass

/-!
# Small letters

The small letter of each capital letter. Capitals stand in runs: from a first to a last code point, every
one or every second, at one distance from their small letters.
-/

namespace PuzzlePrograms.Text

structure CapitalRun where
  first : Nat
  last : Nat
  step : Nat
  distance : Int

/-- Runs from the code point `n` on, by the numbers of code points between them and in them, in turn. -/
def capitalsFrom (step : Nat) (distance : Int) (n : Nat) : List Nat → List CapitalRun
  | gap :: size :: rest =>
    ⟨n + gap, n + gap + size - 1, step, distance⟩ :: capitalsFrom step distance (n + gap + size) rest
  | _ => []

/-- Where every second code point is a capital, and its small letter comes next. -/
def alternating : List Nat :=
  [256,47,3,5,2,15,2,45,2,5,4,3,2,1,3,1,5,1,6,1,7,5,2,1,4,1,2,1,3,3,2,1,3,1,8,1,2,1,2,17,2,17,3,3,3,39,3,17,8,1,5,1,4,
   9,289,3,3,1,97,23,8,1,2,1,101,33,9,53,2,13,2,95,6353,149,11,95,644,1,2780,1,6,5,6,1,2,1,10,99,8,3,4,1,31053,45,19,
   27,135,13,3,61,10,3,2,9,4,1,4,3,3,19,11,15,4,3,6,1,5,3,28,1]

/-- The other capitals by the distance of their small letters. -/
def distant : List (Int × List Nat) :=
  [(32,[192,23,1,7,690,17,1,9,100,32,64241,26,6501,32,21888,32]),(-121,[376,1]),(210,[385,1]),(206,[390,1]),
   (205,[393,2,8,1]),(79,[398,1]),(202,[399,1]),(203,[400,1]),(207,[404,1]),(211,[406,1,5,1]),(209,[407,1]),
   (213,[413,1]),(214,[415,1]),(218,[422,1,2,1,4,1]),(217,[433,2]),(219,[439,1]),(2,[452,1,2,1,2,1,38,1]),
   (-97,[502,1]),(-56,[503,1]),(-130,[544,1,476,3]),(10795,[570,1]),(-163,[573,1]),(10792,[574,1]),(-195,[579,1]),
   (69,[580,1]),(71,[581,1]),(116,[895,1]),(38,[902,1]),(37,[904,3]),(64,[908,1,67827,51]),(63,[910,2]),
   (8,[975,1,4128,6]),(-60,[1012,1]),(-7,[1017,1,7154,1]),(80,[1024,16]),(15,[1216,1]),(48,[1329,38,9897,48]),
   (7264,[4256,38,1,1,5,1]),(38864,[5024,80]),(-3008,[7312,43,2,3]),(-7615,[7838,1]),
   (-8,[7944,8,8,6,10,8,8,8,8,6,11,1,1,1,1,1,1,1,8,8,24,8,8,8,8,8,8,2,30,2,14,2]),(-74,[8122,2]),
   (-9,[8124,1,15,1,47,1]),(-86,[8136,4]),(-100,[8154,2]),(-112,[8170,2]),(-128,[8184,2]),(-126,[8186,2]),
   (-7517,[8486,1]),(-8383,[8490,1]),(-8262,[8491,1]),(28,[8498,1]),(16,[8544,16]),(26,[9398,26]),(-10743,[11362,1]),
   (-3814,[11363,1]),(-10727,[11364,1]),(-10780,[11373,1]),(-10749,[11374,1]),(-10783,[11375,1]),(-10782,[11376,1]),
   (-10815,[11390,2]),(-35332,[42877,1]),(-42280,[42893,1]),(-42308,[42922,1,3,1]),(-42319,[42923,1]),
   (-42315,[42924,1]),(-42305,[42925,1]),(-42258,[42928,1]),(-42282,[42929,1]),(-42261,[42930,1]),(928,[42931,1]),
   (-48,[42948,1]),(-42307,[42949,1]),(-35384,[42950,1]),(40,[66560,40,136,36]),(39,[66928,11,1,15,1,7,1,2]), (34,
   [125184,34])]

def capitalRuns : List CapitalRun :=
  capitalsFrom 2 1 0 alternating ++ distant.flatMap fun (distance, sizes) => capitalsFrom 1 distance 0 sizes

/-- The small letter of a character, or the character itself. One capital has a small letter that is
    written with a second, combining character. -/
def smallLetter (c : Char) : List Char :=
  if c.toNat < 128 then [c.toLower]
  else if c.toNat == 0x130 then ['i', '\u0307']
  else
    match capitalRuns.find? fun r =>
      r.first ≤ c.toNat && c.toNat ≤ r.last && (c.toNat - r.first) % r.step == 0 with
    | some r => [Char.ofNat ((c.toNat : Int) + r.distance).toNat]
    | none => [c]

def nextIsCased : List Char → Bool
  | [] => false
  | c :: cs =>
    if inRanges unnoticedRanges c.toNat then nextIsCased cs else inRanges casedRanges c.toNat

/-- A text in small letters, after the characters `before`, the last of them first. The capital sigma
    has another small letter at the end of a word. -/
def lowerAfter (before : List Char) : List Char → List Char
  | [] => []
  | c :: cs =>
    (if c == 'Σ' then [if nextIsCased before && !nextIsCased cs then 'ς' else 'σ']
      else smallLetter c) ++ lowerAfter (c :: before) cs

def lower (s : String) : String := String.ofList (lowerAfter [] s.toList)

end PuzzlePrograms.Text
