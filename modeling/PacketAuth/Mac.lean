import PacketAuth.Sha2

/-! # Keyed message authentication

The HMAC construction over a hash function, computed as a message arrives.  A `Mac` holds two
hashers that have each taken one block of key; the message goes to the inner one, and its value to
the outer one. -/

namespace PacketAuth

/-- A message in the course of being authenticated. -/
structure Mac (f : Sha2) where
  inner : Hasher f
  outer : Hasher f

namespace Mac
variable {f : Sha2}

/-- The key as one block: a key longer than a block stands for its hash value, and zeros fill up. -/
def keyBlock (f : Sha2) (key : Bytes) : Bytes :=
  let short := if key.length ≤ f.blockBytes then key else f.digest key
  short ++ List.replicate (f.blockBytes - short.length) 0

def innerPad : UInt8 := 0x36

def outerPad : UInt8 := 0x5C

/-- A block with each byte changed by a pad. -/
def mask (pad : UInt8) (block : Bytes) : Bytes := block.map (· ^^^ pad)

/-- Before the message. -/
def start (f : Sha2) (key : Bytes) : Mac f where
  inner := (Hasher.start f).absorb (mask innerPad (keyBlock f key))
  outer := (Hasher.start f).absorb (mask outerPad (keyBlock f key))

/-- Take more of the message. -/
def update (m : Mac f) (part : Bytes) : Mac f := { m with inner := m.inner.absorb part }

/-- The tag of the message so far. -/
def finish (m : Mac f) : Bytes := (m.outer.absorb m.inner.finish).finish

/-- The tag of a message given in parts. -/
def tag (f : Sha2) (key : Bytes) (parts : List Bytes) : Bytes :=
  (parts.foldl update (start f key)).finish

@[simp] theorem length_tag (f : Sha2) (key : Bytes) (parts : List Bytes) :
    (tag f key parts).length = f.digestBytes := by
  simp [tag, finish]

/-- Whether two tags are equal, found without stopping at the first byte that differs.  The length
of a tag is no secret. -/
def tagsEqual (expected given : Bytes) : Bool :=
  expected.length == given.length &&
    (List.zipWith (· ^^^ ·) expected given).foldl (· ||| ·) 0 == 0

end Mac
end PacketAuth
