import PacketAuth.Json.Basic
import PacketAuth.Mac
import PacketAuth.SigningError

/-! # Signers

A key is a secret byte string.  Only its length is ever shown (`Key.describe`), and a policy looks
at nothing else (`Policy.checkKey`).  A signature is the tag of a packet, written in base64; a
payload digest is the SHA-256 value of the payload, written in hexadecimal; a report is what is
known of a packet once it is signed.

A signer is a valid policy.  It signs a packet in three steps: the key has to satisfy the policy,
the number has to be a packet number, and the tag is computed over the message of the packet
(`Signer.message`).  Verifying is signing again and comparing tags. -/

namespace PacketAuth

/-! ### Keys -/

structure Key where
  bytes : Bytes
deriving DecidableEq

namespace Key

/-- The key of a base64 text. -/
def parse (s : String) : Except SigningError Key :=
  ((Base64.parse s).map Key.mk).mapError .ofKeyText

/-- The largest length in bits that is told apart. -/
def maxBits : Nat := 0xFFFFFFFFFFFFFFFF

/-- The length in bits, which stops at `maxBits`. -/
def bits (k : Key) : Nat := min (8 * k.bytes.length) maxBits

/-- A key as it is shown to a programmer. -/
def describe (k : Key) : String := "SigningKey \x7b bits: " ++ toString k.bits ++ ", .. \x7d"

end Key

/-- Accepts the keys that are long enough. -/
def Policy.checkKey (p : Policy) (k : Key) : Except SigningError Unit :=
  if k.bits < p.minKeyBits.toNat then .error (.weakKey k.bits p.minKeyBits.toNat) else .ok ()

/-! ### Signatures and payload digests -/

structure Signature where
  bytes : Bytes
deriving DecidableEq, Repr

namespace Signature

/-- The base64 text of a signature. -/
def text (s : Signature) : String := Base64.text s.bytes

/-- The signature of a base64 text. -/
def parse (s : String) : Except SigningError Signature :=
  ((Base64.parse s).map Signature.mk).mapError .ofSignatureText

/-- A signature as it is shown to a programmer. -/
def describe (s : Signature) : String := s!"Signature({Hex.encode s.bytes})"

end Signature

/-- The SHA-256 value of a payload. -/
structure PayloadDigest where
  bytes : Bytes
  length_bytes : bytes.length = 32
deriving DecidableEq

namespace PayloadDigest

/-- The digest of a payload. -/
def of (payload : Bytes) : PayloadDigest := ⟨Sha2.sha256.digest payload, Sha2.length_digest ..⟩

/-- The hexadecimal text of a digest. -/
def text (d : PayloadDigest) : String := Hex.encode d.bytes

/-- A digest as it is shown to a programmer. -/
def describe (d : PayloadDigest) : String := s!"PayloadDigest({d.text})"

end PayloadDigest

/-! ### Reports -/

structure Report where
  number : PacketNumber
  hash : Hash
  mode : Mode
  digest : PayloadDigest
  signature : Signature
deriving DecidableEq

namespace Report

/-- A report as a JSON object. -/
def toJson (r : Report) : Json :=
  .object [
    ("packet_number", .ofNat r.number.value.toNat),
    ("algorithm", .string r.hash.macName),
    ("mode", .string r.mode.name),
    ("payload_digest", .string r.digest.text),
    ("signature", .string r.signature.text)]

/-- A report as it is shown to a programmer. -/
def describe (r : Report) : String :=
  "SignedPacket \x7b packet_number: " ++ r.number.text ++ ", algorithm: " ++
    Text.quote r.hash.macName ++ ", mode: " ++ r.mode.describe ++ ", payload_digest: " ++
    r.digest.describe ++ ", signature: " ++ r.signature.describe ++ " \x7d"

end Report

/-! ### Signers -/

structure Signer where
  policy : Policy
  valid : policy.Valid
deriving DecidableEq

namespace Signer

/-- The signer of a policy, if the policy is valid. -/
def new (p : Policy) : Except SigningError Signer :=
  match h : p.validate with
  | .ok () => .ok ⟨p, p.validate_eq_ok_iff.1 h⟩
  | .error fault => .error (.ofPolicy fault)

/-- The signer of the standard policy. -/
def standard : Signer := ⟨.standard, Policy.standard_valid⟩

/-- What the tag of a packet covers, in parts. -/
def message (s : Signer) (digest : PayloadDigest) (number : PacketNumber) : List Bytes :=
  match s.policy.mode with
  | .counter => [number.encode]
  | .payloadBound => [digest.bytes, number.encode]

/-- The report on a packet that is known to be in order. -/
def certify (s : Signer) (payload : Bytes) (number : PacketNumber) (key : Key) : Report :=
  let digest := PayloadDigest.of payload
  { number := number, hash := s.policy.hash, mode := s.policy.mode, digest := digest
    signature := ⟨Mac.tag s.policy.hash.sha2 key.bytes (s.message digest number)⟩ }

/-- Sign a packet and report on it.  A key that is too short is reported ahead of a bad number. -/
def report (s : Signer) (payload : Bytes) (number : Numeral) (key : Key) :
    Except SigningError Report := do
  s.policy.checkKey key
  let n ← number.resolve
  return s.certify payload n key

/-- Sign a packet. -/
def sign (s : Signer) (payload : Bytes) (number : Numeral) (key : Key) :
    Except SigningError Signature := do
  let r ← s.report payload number key
  return r.signature

/-- Accepts the signature of a packet and no other. -/
def verify (s : Signer) (payload : Bytes) (number : Numeral) (key : Key) (signature : Signature) :
    Except SigningError Unit := do
  let expected ← s.sign payload number key
  if Mac.tagsEqual expected.bytes signature.bytes then return () else throw .mismatch

end Signer

end PacketAuth
