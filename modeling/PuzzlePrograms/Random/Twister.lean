import PuzzlePrograms.Number.Instances

/-!
# The Mersenne Twister

The generator keeps 624 words of 32 bits and a position in them. `next` hands out the word at the
position, tempered; when all have been handed out, `refill` computes the next 624 from the present
ones. `ofKey` fills the words from a key of any length, and `ofNat` takes as key the digits of a
number in base `2 ^ 32`, least significant first.
-/

namespace PuzzlePrograms.Random

attribute [local instance] natPow

structure Twister where
  words : Array UInt32
  position : Nat
  deriving Inhabited

namespace Twister

def size : Nat := 624

/-! ## 1. Filling the words -/

def spread (seed : UInt32) : Array UInt32 :=
  let step (acc : Array UInt32 × UInt32) (i : Nat) : Array UInt32 × UInt32 :=
    let mixed : UInt32 := acc.2 ^^^ (acc.2 >>> 30)
    let w : UInt32 := mixed * 1812433253 + UInt32.ofNat i
    (acc.1.push w, w)
  (((List.range (size - 1)).map (· + 1)).foldl step (#[seed], seed)).1

/-- One step of mixing: word `i` from itself and the word before it, and on to the next word. After
    the last word the first takes over its value. -/
def mixWord (f : UInt32 → UInt32 → UInt32) (words : Array UInt32) (i : Nat) : Array UInt32 × Nat :=
  let before := words.getD (i - 1) 0
  let w := f (words.getD i 0) (before ^^^ (before >>> 30))
  let words := words.setIfInBounds i w
  if i + 1 < size then (words, i + 1) else (words.setIfInBounds 0 w, 1)

def mixKey (key : Array UInt32) : Nat → Array UInt32 → Nat → Nat → Array UInt32 × Nat
  | 0, words, i, _ => (words, i)
  | n + 1, words, i, j =>
    let (words, i) := mixWord (fun w b => (w ^^^ (b * 1664525)) + key.getD j 0 + UInt32.ofNat j) words i
    mixKey key n words i (if j + 1 < key.size then j + 1 else 0)

def mixPlain : Nat → Array UInt32 → Nat → Array UInt32
  | 0, words, _ => words
  | n + 1, words, i =>
    let (words, i') := mixWord (fun w b => (w ^^^ (b * 1566083941)) - UInt32.ofNat i) words i
    mixPlain n words i'

def ofKey (key : Array UInt32) : Twister :=
  let (words, i) := mixKey key (max size key.size) (spread 19650218) 1 0
  let words := mixPlain (size - 1) words i
  { words := words.setIfInBounds 0 0x80000000, position := size }

def digits (n : Nat) : Array UInt32 :=
  let rec go : Nat → Nat → Array UInt32 → Array UInt32
    | 0, _, acc => acc
    | fuel + 1, n, acc =>
      let acc := acc.push (UInt32.ofNat (n % 2 ^ (32 : Nat)))
      if n < 2 ^ (32 : Nat) then acc else go fuel (n / 2 ^ (32 : Nat)) acc
  go (n.log2 / 32 + 1) n #[]

def ofNat (n : Nat) : Twister := ofKey (digits n)

/-! ## 2. Handing out words -/

def renew (words : Array UInt32) (k : Nat) : Array UInt32 :=
  let y := (words.getD k 0 &&& 0x80000000) ||| (words.getD ((k + 1) % size) 0 &&& 0x7fffffff)
  let w := words.getD ((k + 397) % size) 0 ^^^ (y >>> 1)
  words.setIfInBounds k (if y &&& 1 == 0 then w else w ^^^ 0x9908b0df)

def refill (t : Twister) : Twister :=
  let rec go : Nat → Nat → Array UInt32 → Array UInt32
    | 0, _, words => words
    | n + 1, k, words => go n (k + 1) (renew words k)
  { words := go size 0 t.words, position := 0 }

def temper (y : UInt32) : UInt32 :=
  let y := y ^^^ (y >>> 11)
  let y := y ^^^ ((y <<< 7) &&& 0x9d2c5680)
  let y := y ^^^ ((y <<< 15) &&& 0xefc60000)
  y ^^^ (y >>> 18)

def next (t : Twister) : UInt32 × Twister :=
  let t := if t.position < size then t else t.refill
  (temper (t.words.getD t.position 0), { t with position := t.position + 1 })

/-! ## 3. Fractions and bits -/

def fraction (t : Twister) : Float × Twister :=
  let (a, t) := t.next
  let (b, t) := t.next
  let n := (a >>> 5).toNat * 2 ^ (26 : Nat) + (b >>> 6).toNat
  (Float.ofNat n * (1.0 / 9007199254740992.0), t)

def bits (k : Nat) (t : Twister) : Nat × Twister :=
  let rec go : Nat → Nat → Twister → Nat × Twister
    | 0, _, t => (0, t)
    | n + 1, k, t =>
      let (w, t) := t.next
      if k ≤ 32 then (w.toNat / 2 ^ (32 - k), t)
      else
        let (rest, t) := go n (k - 32) t
        (w.toNat + rest * 2 ^ (32 : Nat), t)
  if k == 0 then (0, t) else go ((k + 31) / 32) k t

end Twister

end PuzzlePrograms.Random
