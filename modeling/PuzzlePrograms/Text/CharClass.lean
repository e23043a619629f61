/-!
# Character classes

The classes of characters that reading and writing of program text asks for. `runTable` tells the kinds of all code
points, one run of code points after the other; a class is made of some kinds. What it says of names and of printing
holds beyond ASCII only; each test treats ASCII by itself.
-/

namespace PuzzlePrograms.Text

def inRanges (ranges : Array (Nat × Nat)) (c : Nat) : Bool := ranges.any fun (lo, hi) => lo ≤ c && c ≤ hi

/-- Read by its hexadecimal digits: the digits before a letter say in decimal how many code points there are in a run,
    if there are more than one, and the letter tells their kind.

    The kinds from 0 on are `a`, unprintable; `b`, at the start of names; `c`, inside of names and unnoticed; `d`, none
    of all this; `e`, inside of names; `fa`, at the start of names and cased; `fb`, in words only; `fc`, at the start of
    names and unnoticed; `fd`, inside of names and in words; `fe`, unnoticed; `ffa`, unprintable and unnoticed; `ffb`,
    cased; `ffc`, in words and unnoticed; `ffd`, all that `c` and `fd` are. -/
def runTable : List Nat := [
  0x39dfe6dfe11dfe6d26ffb3dfedfe26ffb5d33a7dfedfa2dffadfe2d2fbfefadcfefbfad3fbd23fad31fad195fab4fa4b208fab27fa18fc4fe,
  0x12fc14fe5fc7fefcfefc17fe112c4fafcfe2fa2affc3fadfa4a2fefac3faafaa20faa83fad139fad5c2fe166faa38fa2afc5dfe41fa2d2a3d,
  0xa45cdcd2cd2cdc8a27b4a4bdfe11a6ffa10d11cdffa3d32bfc10b21c10fd4d2bc99bdb7cffad6c2fc2cd4c2b10fd3b2db14daffabc30b27c,
  0x2a89b11cb14a10fd33b9c2fc4dfc2ac2d22b4cfc9cfc3cfc5c2a15da25b3c2ada11b5a24bfe6ba2ffa6a8c41bfc24cffa32ce54bcecb3e8c,
  0x4ec2eb7c10b2c2d10fddfc15bc2ea8b2a2b2a22ba7bab3a4b2acb3e4c2a2e2a2ecb8ae4a2ba3b2c2a10fd2b2d6fb2dbdc2a2cea6b4a2b2a,
  0x22ba7ba2ba2ba2b2aca3e2c4a2c2a3c3ac7a4bab7a10fd2c3bcd10a2cea9ba3ba22ba7ba2ba5b2acb3e5ca2cea2ec2ab15a2b2c2a10fd2d7a,
  0xb6cac2ea8b2a2b2a22ba7ba2ba5b2acbece4c2a2e2a2ec7a2ce4a2ba3b2c2a10fddb6fb10acba6b3a3ba4b3a2baba2b3a2b3a3b3a12b4a2ec,
  0x2e3a3ea3ec2ab6ae14a10fd3fb8d5ac3ec8ba3ba23ba16b2acb3c4ea3ca4c7a2ca3b2ab2a2b2c2a10fd7ad7fbdbc2ed8ba3ba23ba10ba5b2a,
  0xcbec5eac2ea2e2c7a2e6a2ba2b2c2a10fda2b13a2c2e9ba3ba41b2cb3e4ca3ea3ecbd4a3be7fb3b2c2a10fd9fbd6bac2ea18b3a24ba9bab2a,
  0x7b3ac4a3e3caca8e6a10fd2a2ed12a48bcbfd7c4ad6bfc8cd10fd2d37a2baba5ba24baba10bcbfd9cb2a5bafca6c2a10fd2a4b32ab23d2c6d,
  0x10fd10fbdcdcdc4d2e8ba36b4a14ce5cd2c5b11ca36ca8dc6da13d37a43b2e4ce6ce2c2e2cb10fd6d6b2e2c4b3cb3e2b7e3b4c13bc2e2c6ec,
  0xbe10fd3ec2d38faafa5afa2a43fadfc3fa329ba4b2a7baba4b2a41ba4b2a33ba4b2a7baba4b2a15ba57ba4b2a67b2a3c9d9fd11fb3a16b10d,
  0x6a86fa2a6fa2ad620b2d17ba26b2d3a75b3d11b7a18b3ce9a19b2ce2d9a18b2c12a13ba3ba2c12a52b2ce7c8ec2e11c3dfc4dbc2a10fd6a,
  0x10fb6a11d3cffac10fd6a35bfc53b7a5b2fc34bcb5a70b10a31ba3c4e2c3e4a2ec6e3c4ad3a2d10fd30b2a5b11a44b4a26b6a11fd3a34d23b,
  0x2c2ec2a2d53bece7cacec2e8c6e10c2ac10fd6a10fd6a7dfc6d2a14cfe16c49a4ce47bce5cec5ec2e8b3a10fd17d9c11da2ce30be4c2e2ce,
  0x3c2b10fd44bce2c3ece3c2e8a4d36b8e8c2e2c3a5d10fd3a3b10fd30b6fc2d9fa7a43fa2a3fa8d8a3cd13ce7c4bc6bc2be2cb5a44fa63fc,
  0x13fafc34fa37fc64c278fa2a6fa2a38fa2a6fa2a8faafaafaafaa31fa2a53faa7fafefa3fe3faa7fa3fe4fa2a6faa3fe13fa3fe2a3faa7fa,
  0x2fe12a5ffa8d2fe10dfe2dfe2a5ffaa15d2e19de10da5ffaa10ffafbfc2a6fb5dfc10fb5da13fc3a33d15a13c4fec3fe12c15a2dfa4dfa2d,
  0x10fadfa2db5fa6dfadfadfad4fab6fa4bfa2d4fa5d5fa4dfad16fb32fa3b2fa4bfb2d4a663d25a11d21a60fb26d52ffb22fb630d30fb992d,
  0x2a32da105d124fa2fc103fa6d4fa3c2fa5a4dfb2d38faafa5afa2a56b7afcd14ac23b9a7ba7ba7ba7ba7ba7ba7ba7ba32c47dffc46d34a26d,
  0xa89d12a214d26a12d5a4dfc2b25d9b4c2ed5fc2d3bfcb3da86b2a2c2fe2fcbd90bd3fcb5a43ba94ba2d4fb10d32b36d12a16b31da10fb30d,
  0x8fbd15fb32d10fb39d15fb320d6592b64d21013bfc1143b3a55d9a40b6fc2d268bfc3d16b10fd2b20a46fabc3fed10cdfc28fa2fc2c80b2c,
  0x6d8a23fe9fc2fe78fafc23fafc2fe4fab59fa5a2faafaa5fa24a3fc2fab2fcfa7bc3bc4bc23b2e2ce4dc3a6fb4d6a52b4d8a2e50b16e2c8a,
  0x2d10fd6a18c6b3dbd2bc10fd28b8c2d23b11c2e11ad29b3a3ce47bc2e4c2e2c3e13dafc10fd4a2d5bcfc9b10fd5ba41b6c2e2c2e2c9a3bc8b,
  0xce2a10fd2a4d16bfc6b3dbece50bcb3c2b2c5b2cbcb24a2bfc2d11be2c2e2db2fcec10a6b2a6b2a6b9a7ba7ba43fafe4fc9fafc2fe4a80fa,
  0x35b2ec2ec2edec2a10fd6a11172b12a23b4a49b4a2048d6400a366b2a106b38a7fa12a5fa5abc10bd13ba5baba2ba2ba108b17fe16a139b,
  0x6fb218b18d64b2a54b7ad32a10b2fb4d16c3dfe6d6a16c3d2e24d3e2dfeadfe17da4d4afbbfbbfbafbbfbbfbbfbbfb126b2affaa6dfe6dfed,
  0x10fdfe6d26fa3dfeefe26fa11d10bfc45b2ffd31b3a6b2a6b2a6b2a3b3a3dfe3da7d10a3ffa2d2a12ba26ba19ba2ba15b2a14b34a123b5a3d,
  0x4a45fb3a9d53b4fb17d2fb3da13d3ad47a45dc130a29b3a49b15ac27fb4a32b4fb9a30b5a38b5c5a30bad36b4a8bd5b42a80fa78b2a10fd6a,
  0x36fa4a36fa4a40b8a52b11ad11faa15faa7faa2faa11faa15faa7faa2fa67a311b9a22b10a8b24a6fca42fca9fc69a6b2aba44ba2b3ab2a,
  0x23bad8fb23b2d7fb31b8a9fb48a19ba2b5a5fb22b6fb3ad26b5ad64a56b4a2fb2b16fb2a46fbb3ca2c5a4c4ba3ba29b2a3c4ac9fb7a9d7a,
  0x29b2fbd29b3fb32a8bd28b2c4a5fb7d9a54b3a7d22b2a8fb19b5a8fb18b7a4d12a7fb80a73b55a51fa13a51fa7a6fb36b4c8a10fd294a31fb,
  0xa42ba2cd2a2b78a29b10fbb8a22b11c4fb5d22a18b4c4d38a21b7fb20a23b9aece53b15c7d4a20fb10fdc2b2cb9a3ce45b3e4c2e2c2dffa4d,
  0xc10affa2a25b7a10fd6a3c36b5ce8ca10fd4db2eb8a35bc2db9a2ce48b3e9c2e4b4d4cdec10fdbdb3da20fb11a18ba25b3e3c2ece2c6dc65a,
  0x7baba4ba15ba10bd6a47bc3e8c5a10fd6a2c2ea8b2a2b2a22ba7ba2ba5ba2cb2ec4e2a2e2a3e2ab6ae5a5b2e2a7c3a5c139a53b3e8c2e3cec,
  0x4b5d10fd2dadc3b30a48b3e6cec4e2ce2c2bdb8a10fd166a47b3e4c2a4e2ce2c23d4b2c34a48b3e8c2ece2c3db11a10fd6a13d19a43bcec2e,
  0x6cecbd6a10fd54a27b2a3c2e4ce5c4a10fd2fb4d7b185a44b3e9ce2cd100a64fa10fd9fb12a8b2ab2a8ba2ba24b6ea2e2a2cecbebec3d9a,
  0x10fd70a8b2a39b3e4c2a2c4ecbdbe27ab10c40b6ceb4c8dc8ab6c2e3c46b13ce2c3db5d13a73b263a9ba37be7ca6cecb5d10a10fd19fb3a2d,
  0x30b2a22cae7ce2ce2c73a7ba2ba38b6c3aca2ca7cbc8a10fd6a6ba2ba32b5ea2ca2ececb7a10fd310a19b2c2e2d183ab15a21fb29d13ad,
  0x922b102a111ba5d11a196b2636a97b2d13a1071ba9ffa4039a583b8633a569b7a31ba10fd4a2d79ba10fd6a30b2a5cd10a48b7c9d4fc2d10a,
  0x10fda7fba21b5a19b688a64fa23fb4d101a75b4acb55e7a4c13fc64a2fcdfcc11a2e14a6136b8a1238b42a9b8935a4fca7fca2fca291b45a,
  0x3b17a4b8a396b2308a107b5a13b3a9b7a10b2ad2cd4ffa4700a46c2a23c9a116d60a246d10a39d2a60d2e3c3d6e8ffa8c2d7c30d4c61d21a,
  0x66d3cd154a20fb12a87d9a25fb135a85faa71faa2fa2afa2a2fa2a4faa12faafaa7faa65faa4fa2a8faa7faa28faa4faa5faafa3a7faa,
  0x340fa2a25fad25fad31fad25fad31fad25fad31fad25fad31fad25fad8fa2a50fd512d55c4d50c8dc14dc7d15a5ca15c1104a10fab20fa,
  0x225a7ca17c2a7ca2ca5c213a45b3a7c7fc2a10fd4abd320a30bc17a44b4c10fd5ad1248a7ba4ba2ba15ba197b2a9fb7c41a68fa7cfc4a10fd,
  0x4a2d785a59fbd3fbd4fb76a45fbd15fb194a4ba27ba2bab2aba10ba4babab6ab4abababa3ba2bab2abababababa2bab2a4ba7ba4ba4baba,
  0x10ba17b5a3ba5ba17b52a2d270a44d4a100d12a15d2a15da15da37d10a13fb35d26ffb6d26ffb6d26ffb36d56a29d13a44d4a9d7a2d14a6d,
  0x154a251d5fe728d5a16d3a13d3a116d12a89d7a12d4ad15a12d4a56d8a10d6a40d8a30d2a2d78a340d12a14d2a5d3a5d3a7d9a29d3a11d5a,
  0x6d10a10d6a8d8a7d9a147da55d37a10fd1030a42720b32a4153b7a222b2a5762b14a7473b3103a542b1506a4939b715958affa30a96ffa, 0x128a240c196112a]

/-- The last `k` hexadecimal digits of a number before other digits. -/
def hexDigits : Nat → Nat → List Nat → List Nat
  | 0, _, ds => ds
  | k + 1, n, ds => if n = 0 then ds else hexDigits k (n / 16) (n % 16 :: ds)

/-- The runs from the code point `n` on, with their kinds. A letter `f` adds five to the kind. -/
def runsFrom (n size kind : Nat) : List Nat → List (Nat × Nat × Nat)
  | [] => []
  | d :: ds =>
    if d < 10 then runsFrom n (10 * size + d) kind ds
    else if d = 15 then runsFrom n size (kind + 5) ds
    else (kind + (d - 10), n, n + (size - 1)) :: runsFrom (n + (size - 1) + 1) 0 0 ds

def runs : List (Nat × Nat × Nat) := runsFrom 0 0 0 (runTable.flatMap fun n => hexDigits 120 n [])

def rangesOf (kinds : List Nat) : Array (Nat × Nat) :=
  (runs.filterMap fun (kind, range) => if kinds.contains kind then some range else none).toArray

def unprintableRanges : Array (Nat × Nat) := rangesOf [0, 10]

def nameStartRanges : Array (Nat × Nat) := rangesOf [1, 5, 7]

def nameTailRanges : Array (Nat × Nat) := rangesOf [2, 4, 8, 13]

def wordExtraRanges : Array (Nat × Nat) := rangesOf [6, 8, 12, 13]

def casedRanges : Array (Nat × Nat) := rangesOf [5, 11]

def unnoticedRanges : Array (Nat × Nat) := rangesOf [2, 7, 9, 10, 12, 13]

def wordMissingRanges : Array (Nat × Nat) := #[(0x1885, 0x1886), (0x2118, 0x2118), (0x212e, 0x212e)]

def isPrintable (c : Char) : Bool :=
  if c.toNat < 128 then 32 ≤ c.toNat && c.toNat < 127
  else !inRanges unprintableRanges c.toNat

def isNameStart (c : Char) : Bool :=
  if c.toNat < 128 then c.isAlpha || c == '_'
  else inRanges nameStartRanges c.toNat

def isNamePart (c : Char) : Bool :=
  if c.toNat < 128 then c.isAlphanum || c == '_'
  else inRanges nameStartRanges c.toNat || inRanges nameTailRanges c.toNat

def isWord (c : Char) : Bool :=
  if c.toNat < 128 then c.isAlphanum || c == '_'
  else (inRanges nameStartRanges c.toNat && !inRanges wordMissingRanges c.toNat)
    || inRanges wordExtraRanges c.toNat

def isBlank (c : Char) : Bool :=
  (9 ≤ c.toNat && c.toNat ≤ 13) || (28 ≤ c.toNat && c.toNat ≤ 32)
    || c.toNat == 0x85
    || c.toNat == 0xa0
    || c.toNat == 0x1680
    || (0x2000 ≤ c.toNat && c.toNat ≤ 0x200a)
    || (0x2028 ≤ c.toNat && c.toNat ≤ 0x2029)
    || c.toNat == 0x202f
    || c.toNat == 0x205f
    || c.toNat == 0x3000

def isName (s : String) : Bool :=
  match s.toList with
  | [] => false
  | c :: cs => isNameStart c && cs.all isNamePart

end PuzzlePrograms.Text
