import PuzzlePrograms.Number.Instances

/-!
# A digest of 512 bits

The digest of a list of bytes by the standard SHA-512: the bytes are padded to blocks of 128, and each
block is mixed into eight words of 64 bits in eighty rounds. A text seeds a random source with its
bytes followed by their digest.
-/

namespace PuzzlePrograms.Random.Digest

attribute [local instance] natPow

/-! ## 1. The constants of the standard -/

def rootFraction (k n : Nat) : UInt64 :=
  .ofNat ((List.range 70).foldr (fun b r =>
    if Nat.pow (r + 1 <<< b) k ≤ n <<< (64 * k) then r + 1 <<< b else r) 0)

def primes : List Nat := (List.range 410).filter fun p => 2 ≤ p && (List.range p).all fun d => d < 2 || p % d != 0

/-- The words before the first block: the fractions of the square roots of the first eight primes. -/
def start : Array UInt64 := ((primes.take 8).map (rootFraction 2)).toArray

def roundWords : Array UInt64 := (primes.map (rootFraction 3)).toArray

/-! ## 2. One block -/

def turned (n : UInt64) (x : UInt64) : UInt64 := (x >>> n) ||| (x <<< (64 - n))

def wordOf (bytes : List UInt8) : UInt64 := bytes.foldl (fun w b => (w <<< 8) ||| b.toUInt64) 0

def wordsOf : Nat → List UInt8 → List UInt64
  | 0, _ => []
  | n + 1, bytes => wordOf (bytes.take 8) :: wordsOf n (bytes.drop 8)

def nextWord (words : Array UInt64) : UInt64 :=
  let back (k : Nat) : UInt64 := words.getD (words.size - k) 0
  let a := back 15
  let b := back 2
  let s0 := turned 1 a ^^^ turned 8 a ^^^ (a >>> 7)
  let s1 := turned 19 b ^^^ turned 61 b ^^^ (b >>> 6)
  back 16 + s0 + back 7 + s1

def schedule (block : List UInt8) : Array UInt64 :=
  (List.range 64).foldl (fun words _ => words.push (nextWord words)) (wordsOf 16 block).toArray

structure Mix where
  a : UInt64
  b : UInt64
  c : UInt64
  d : UInt64
  e : UInt64
  f : UInt64
  g : UInt64
  h : UInt64

def Mix.ofWords (w : Array UInt64) : Mix :=
  ⟨w.getD 0 0, w.getD 1 0, w.getD 2 0, w.getD 3 0, w.getD 4 0, w.getD 5 0, w.getD 6 0, w.getD 7 0⟩

def Mix.round (m : Mix) (w k : UInt64) : Mix :=
  let s1 := turned 14 m.e ^^^ turned 18 m.e ^^^ turned 41 m.e
  let chosen := (m.e &&& m.f) ^^^ ((m.e ^^^ 0xffffffffffffffff) &&& m.g)
  let t1 := m.h + s1 + chosen + k + w
  let s0 := turned 28 m.a ^^^ turned 34 m.a ^^^ turned 39 m.a
  let most := (m.a &&& m.b) ^^^ (m.a &&& m.c) ^^^ (m.b &&& m.c)
  ⟨t1 + s0 + most, m.a, m.b, m.c, m.d + t1, m.e, m.f, m.g⟩

def absorb (words : Array UInt64) (block : List UInt8) : Array UInt64 :=
  let w := schedule block
  let m := (List.range 80).foldl (fun m i => m.round (w.getD i 0) (roundWords.getD i 0)) (Mix.ofWords words)
  let add (i : Nat) (x : UInt64) : UInt64 := words.getD i 0 + x
  #[add 0 m.a, add 1 m.b, add 2 m.c, add 3 m.d, add 4 m.e, add 5 m.f, add 6 m.g, add 7 m.h]

/-! ## 3. The digest -/

def bytesOf (width n : Nat) : List UInt8 := (List.range width).map fun i => UInt8.ofNat (n / 256 ^ (width - 1 - i))

/-- The bytes with a mark, zeros and their number of bits after them, a whole number of blocks. -/
def padded (bytes : List UInt8) : List UInt8 :=
  let zeros := (239 - bytes.length % 128) % 128
  bytes ++ 0x80 :: (List.replicate zeros 0 ++ bytesOf 16 (8 * bytes.length))

def blocks : Nat → List UInt8 → List (List UInt8)
  | 0, _ => []
  | n + 1, bytes => bytes.take 128 :: blocks n (bytes.drop 128)

def digest (bytes : List UInt8) : List UInt8 :=
  let full := padded bytes
  let words := (blocks (full.length / 128) full).foldl absorb start
  words.toList.flatMap fun w => bytesOf 8 w.toNat

def number (bytes : List UInt8) : Nat := bytes.foldl (fun n b => 256 * n + b.toNat) 0

end PuzzlePrograms.Random.Digest
