import PacketAuth.Bytes.Basic

/-! # UTF-8

One scan reads a byte string as characters and gaps: a gap stands for a maximal run of bytes that
begins like a character and is then broken off, or for a single byte that begins none.  Strict
reading allows no gap; lossy reading puts U+FFFD for each. -/

namespace PacketAuth.Utf8

/-- A character of which some bytes are read: how many are still missing, the range of the next
one, and the value of the bits so far.  Only the second byte has a range of its own, which shuts
out overlong forms, surrogates and numbers beyond the last code point. -/
structure Unfinished where
  missing : Nat
  low : UInt8
  high : UInt8
  bits : Nat
deriving DecidableEq, Repr

/-- What a byte between characters begins. -/
inductive Start where
  | whole (c : Char)
  | opening (u : Unfinished)
  | stray
deriving DecidableEq, Repr

/-- The classes of first bytes. -/
def start (b : UInt8) : Start :=
  let n := b.toNat
  if n < 0x80 then .whole (Char.ofNat n)
  else if n < 0xC2 then .stray
  else if n < 0xE0 then .opening ⟨1, 0x80, 0xBF, n - 0xC0⟩
  else if n = 0xE0 then .opening ⟨2, 0xA0, 0xBF, 0⟩
  else if n = 0xED then .opening ⟨2, 0x80, 0x9F, 0xD⟩
  else if n < 0xF0 then .opening ⟨2, 0x80, 0xBF, n - 0xE0⟩
  else if n = 0xF0 then .opening ⟨3, 0x90, 0xBF, 0⟩
  else if n < 0xF4 then .opening ⟨3, 0x80, 0xBF, n - 0xF0⟩
  else if n = 0xF4 then .opening ⟨3, 0x80, 0x8F, 4⟩
  else .stray

/-- The characters and gaps of a byte string, `none` being a gap. -/
def scanFrom : Option Unfinished → Bytes → List (Option Char)
  | none, [] => []
  | some _, [] => [none]
  | none, b :: rest =>
    match start b with
    | .whole c => some c :: scanFrom none rest
    | .opening u => scanFrom (some u) rest
    | .stray => none :: scanFrom none rest
  | some u, b :: rest =>
    if u.low ≤ b ∧ b ≤ u.high then
      let bits := u.bits * 64 + b.toNat % 64
      if u.missing ≤ 1 then some (Char.ofNat bits) :: scanFrom none rest
      else scanFrom (some ⟨u.missing - 1, 0x80, 0xBF, bits⟩) rest
    else
      match start b with
      | .whole c => none :: some c :: scanFrom none rest
      | .opening v => none :: scanFrom (some v) rest
      | .stray => none :: none :: scanFrom none rest

def scan (bs : Bytes) : List (Option Char) := scanFrom none bs

/-- The text of a well-formed byte string. -/
def decode? (bs : Bytes) : Option String := ((scan bs).mapM id).map String.ofList

/-- The text of any byte string, with U+FFFD for each gap. -/
def decodeLossy (bs : Bytes) : String := String.ofList ((scan bs).map (·.getD '\uFFFD'))

/-- The bytes of a text. -/
def encode (s : String) : Bytes := s.toList.flatMap String.utf8EncodeChar

/-- Whether every byte is a 7-bit character. -/
def isAscii (bs : Bytes) : Bool := bs.all (·.toNat < 128)

end PacketAuth.Utf8
