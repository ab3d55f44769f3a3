import PacketAuth.Bytes.Basic

/-! # The SHA-2 family

One algorithm over words of any width, and a record for what tells its members apart.  A hash value
is computed by a `Hasher`, which takes a message byte by byte.  Feeding it a message in pieces is
feeding it the whole (`Hasher.absorb_append`), and a value has the length that its member of the
family states (`Sha2.length_digest`).

The family takes its constants from the roots of small primes.  SHA-256 has words of 32 bits.
SHA-384 and SHA-512 have words of 64 bits; they differ in where they start and in how much of the
last registers they keep. -/

namespace PacketAuth

/-- Eight working words. -/
structure Registers (width : Nat) where
  (a b c d e f g h : BitVec width)

/-- A member of the family.  A triple of amounts stands for the sum of two rotations and of a third
rotation or a shift. -/
structure Sha2 where
  wordBytes : Nat
  constants : List (BitVec (8 * wordBytes))
  initial : Registers (8 * wordBytes)
  /-- Rotations of the first register. -/
  upper : Nat × Nat × Nat
  /-- Rotations of the fifth register. -/
  lower : Nat × Nat × Nat
  /-- Two rotations and the shift of the word fifteen places back. -/
  early : Nat × Nat × Nat
  /-- Two rotations and the shift of the word two places back. -/
  late : Nat × Nat × Nat
  digestBytes : Nat
  digestBytes_le : digestBytes ≤ 8 * wordBytes := by decide

namespace Sha2

/-- The bits in a word. -/
abbrev width (f : Sha2) : Nat := 8 * f.wordBytes

/-- The bytes in a block of sixteen words. -/
def blockBytes (f : Sha2) : Nat := 16 * f.wordBytes

/-! ### Compressing a block -/

section words
variable {w : Nat}

def rotations (r : Nat × Nat × Nat) (x : BitVec w) : BitVec w :=
  x.rotateRight r.1 ^^^ x.rotateRight r.2.1 ^^^ x.rotateRight r.2.2

def rotationsShift (r : Nat × Nat × Nat) (x : BitVec w) : BitVec w :=
  x.rotateRight r.1 ^^^ x.rotateRight r.2.1 ^^^ x >>> r.2.2

/-- Each bit of `x` chooses between those of `y` and `z`. -/
def choose (x y z : BitVec w) : BitVec w := (x &&& y) ^^^ (~~~x &&& z)

/-- The bits that at least two of the words have. -/
def majority (x y z : BitVec w) : BitVec w := (x &&& y) ^^^ (x &&& z) ^^^ (y &&& z)

end words

/-- The first `n` words of a byte string. -/
def wordsOf (f : Sha2) : Nat → Bytes → List (BitVec f.width)
  | 0, _ => []
  | n + 1, bs =>
    BitVec.ofNat _ (BigEndian.value (bs.take f.wordBytes)) :: f.wordsOf n (bs.drop f.wordBytes)

/-- One more word of the schedule, which is held newest word first. -/
def extend (f : Sha2) (ws : List (BitVec f.width)) : List (BitVec f.width) :=
  (rotationsShift f.late (ws.getD 1 0) + ws.getD 6 0 + rotationsShift f.early (ws.getD 14 0) +
    ws.getD 15 0) :: ws

/-- The words that the rounds use, from the sixteen of a block. -/
def schedule (f : Sha2) (block : List (BitVec f.width)) : List (BitVec f.width) :=
  (Nat.repeat f.extend (f.constants.length - 16) block.reverse).reverse

/-- One round, with the sum of its constant and its word of the schedule. -/
def round (f : Sha2) (s : Registers f.width) (x : BitVec f.width) : Registers f.width :=
  let t := s.h + rotations f.lower s.e + choose s.e s.f s.g + x
  { a := t + (rotations f.upper s.a + majority s.a s.b s.c), b := s.a, c := s.b, d := s.c
    e := s.d + t, f := s.e, g := s.f, h := s.g }

/-- The registers after a block. -/
def compress (f : Sha2) (s : Registers f.width) (block : Bytes) : Registers f.width :=
  let t := (List.zipWith (· + ·) f.constants (f.schedule (f.wordsOf 16 block))).foldl f.round s
  { a := s.a + t.a, b := s.b + t.b, c := s.c + t.c, d := s.d + t.d
    e := s.e + t.e, f := s.f + t.f, g := s.g + t.g, h := s.h + t.h }

end Sha2

/-! ### Hashing a message -/

namespace Sha2

/-- The registers as bytes, each word most significant byte first. -/
def registerBytes (f : Sha2) (s : Registers f.width) : Bytes :=
  [s.a, s.b, s.c, s.d, s.e, s.f, s.g, s.h].flatMap fun x => BigEndian.encode f.wordBytes x.toNat

/-- What follows a message of `count` bytes: a one bit, zeros up to the end of a block less the
field for the length, and the length in bits. -/
def padding (f : Sha2) (count : Nat) : Bytes :=
  let used := (count + 1 + 2 * f.wordBytes) % f.blockBytes
  0x80 :: List.replicate ((f.blockBytes - used) % f.blockBytes) 0 ++
    BigEndian.encode (2 * f.wordBytes) (8 * count)

end Sha2

/-- A message in the course of being hashed: the registers after its full blocks, the bytes after
these (newest first), and the number of bytes so far. -/
structure Hasher (f : Sha2) where
  registers : Registers f.width
  pending : Bytes
  count : Nat

namespace Hasher
variable {f : Sha2}

def start (f : Sha2) : Hasher f := ⟨f.initial, [], 0⟩

/-- Take one more byte. -/
def push (h : Hasher f) (b : UInt8) : Hasher f :=
  if (h.count + 1) % f.blockBytes = 0 then
    ⟨f.compress h.registers (b :: h.pending).reverse, [], h.count + 1⟩
  else ⟨h.registers, b :: h.pending, h.count + 1⟩

/-- Take more of the message. -/
def absorb (h : Hasher f) (bs : Bytes) : Hasher f := bs.foldl push h

/-- The hash value of the message so far. -/
def finish (h : Hasher f) : Bytes :=
  (f.registerBytes (h.absorb (f.padding h.count)).registers).take f.digestBytes

@[simp] theorem absorb_nil (h : Hasher f) : h.absorb [] = h := rfl

@[simp] theorem absorb_append (h : Hasher f) (a b : Bytes) :
    h.absorb (a ++ b) = (h.absorb a).absorb b := by
  simp [absorb]

@[simp] theorem length_finish (h : Hasher f) : h.finish.length = f.digestBytes := by
  have := f.digestBytes_le
  simp [finish, Sha2.registerBytes]
  omega

end Hasher

namespace Sha2

/-- The hash value of a message. -/
def digest (f : Sha2) (message : Bytes) : Bytes := ((Hasher.start f).absorb message).finish

@[simp] theorem length_digest (f : Sha2) (message : Bytes) :
    (f.digest message).length = f.digestBytes := by
  simp [digest]

/-! ### Fractional parts of roots -/

/-- The first 64 fractional bits of the cube roots of the first eighty primes. -/
def cubeRoots : List Nat :=
  [0x428a2f98d728ae22, 0x7137449123ef65cd, 0xb5c0fbcfec4d3b2f, 0xe9b5dba58189dbbc,
   0x3956c25bf348b538, 0x59f111f1b605d019, 0x923f82a4af194f9b, 0xab1c5ed5da6d8118,
   0xd807aa98a3030242, 0x12835b0145706fbe, 0x243185be4ee4b28c, 0x550c7dc3d5ffb4e2,
   0x72be5d74f27b896f, 0x80deb1fe3b1696b1, 0x9bdc06a725c71235, 0xc19bf174cf692694,
   0xe49b69c19ef14ad2, 0xefbe4786384f25e3, 0x0fc19dc68b8cd5b5, 0x240ca1cc77ac9c65,
   0x2de92c6f592b0275, 0x4a7484aa6ea6e483, 0x5cb0a9dcbd41fbd4, 0x76f988da831153b5,
   0x983e5152ee66dfab, 0xa831c66d2db43210, 0xb00327c898fb213f, 0xbf597fc7beef0ee4,
   0xc6e00bf33da88fc2, 0xd5a79147930aa725, 0x06ca6351e003826f, 0x142929670a0e6e70,
   0x27b70a8546d22ffc, 0x2e1b21385c26c926, 0x4d2c6dfc5ac42aed, 0x53380d139d95b3df,
   0x650a73548baf63de, 0x766a0abb3c77b2a8, 0x81c2c92e47edaee6, 0x92722c851482353b,
   0xa2bfe8a14cf10364, 0xa81a664bbc423001, 0xc24b8b70d0f89791, 0xc76c51a30654be30,
   0xd192e819d6ef5218, 0xd69906245565a910, 0xf40e35855771202a, 0x106aa07032bbd1b8,
   0x19a4c116b8d2d0c8, 0x1e376c085141ab53, 0x2748774cdf8eeb99, 0x34b0bcb5e19b48a8,
   0x391c0cb3c5c95a63, 0x4ed8aa4ae3418acb, 0x5b9cca4f7763e373, 0x682e6ff3d6b2b8a3,
   0x748f82ee5defb2fc, 0x78a5636f43172f60, 0x84c87814a1f0ab72, 0x8cc702081a6439ec,
   0x90befffa23631e28, 0xa4506cebde82bde9, 0xbef9a3f7b2c67915, 0xc67178f2e372532b,
   0xca273eceea26619c, 0xd186b8c721c0c207, 0xeada7dd6cde0eb1e, 0xf57d4f7fee6ed178,
   0x06f067aa72176fba, 0x0a637dc5a2c898a6, 0x113f9804bef90dae, 0x1b710b35131c471b,
   0x28db77f523047d84, 0x32caab7b40c72493, 0x3c9ebe0a15c9bebc, 0x431d67c49c100d4c,
   0x4cc5d4becb3e42b6, 0x597f299cfc657e2a, 0x5fcb6fab3ad6faec, 0x6c44198c4a475817]

/-- The first 64 fractional bits of the square roots of the first sixteen primes. -/
def squareRoots : List Nat :=
  [0x6a09e667f3bcc908, 0xbb67ae8584caa73b, 0x3c6ef372fe94f82b, 0xa54ff53a5f1d36f1,
   0x510e527fade682d1, 0x9b05688c2b3e6c1f, 0x1f83d9abfb41bd6b, 0x5be0cd19137e2179,
   0xcbbb9d5dc1059ed8, 0x629a292a367cd507, 0x9159015a3070dd17, 0x152fecd8f70e5939,
   0x67332667ffc00b31, 0x8eb44a8768581511, 0xdb0c2e0d64f98fa7, 0x47b5481dbefa4fa4]

/-! ### The members of the family -/

/-- Registers from the first eight of a list of 64-bit fractions, cut to `w` bits. -/
def registersOf (w : Nat) (fractions : List Nat) : Registers w :=
  let word (i : Nat) : BitVec w := BitVec.ofNat w (fractions.getD i 0 >>> (64 - w))
  ⟨word 0, word 1, word 2, word 3, word 4, word 5, word 6, word 7⟩

/-- The members with 64-bit words, which differ in the start and in the length of the value. -/
def wide (start : List Nat) (digestBytes : Nat) (h : digestBytes ≤ 64) : Sha2 where
  wordBytes := 8
  constants := cubeRoots.map (BitVec.ofNat 64)
  initial := registersOf 64 start
  upper := (28, 34, 39)
  lower := (14, 18, 41)
  early := (1, 8, 7)
  late := (19, 61, 6)
  digestBytes := digestBytes
  digestBytes_le := h

def sha256 : Sha2 where
  wordBytes := 4
  constants := (cubeRoots.take 64).map fun n => BitVec.ofNat 32 (n >>> 32)
  initial := registersOf 32 squareRoots
  upper := (2, 13, 22)
  lower := (6, 11, 25)
  early := (7, 18, 3)
  late := (17, 19, 10)
  digestBytes := 32

def sha384 : Sha2 := wide (squareRoots.drop 8) 48 (by decide)

def sha512 : Sha2 := wide squareRoots 64 (by decide)

end Sha2
end PacketAuth
