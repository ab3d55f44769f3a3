import PacketAuth.Bytes.Base64
import PacketAuth.PacketNumber
import PacketAuth.Policy.Basic

/-! # Errors of signing

What can go wrong between a request and its signature, with a text and a stable number for each
kind.  The detail of an error is the message of the fault that caused it. -/

namespace PacketAuth

inductive SigningError where
  /-- The key is shorter than the policy allows. -/
  | weakKey (bits minBits : Nat)
  | packetNumber (detail : String)
  | policy (detail : String)
  | keyText (detail : String)
  | signatureText (detail : String)
  /-- The signature is not that of the packet. -/
  | mismatch
  | internal (detail : String)
deriving DecidableEq, Repr

namespace SigningError

def ofNumber (f : PacketNumber.Fault) : SigningError := packetNumber f.message

def ofPolicy (f : Policy.Fault) : SigningError := policy f.message

def ofKeyText (f : Base64.Fault) : SigningError := keyText f.message

def ofSignatureText (f : Base64.Fault) : SigningError := signatureText f.message

/-- The text of an error. -/
def message : SigningError → String
  | weakKey bits minBits => s!"key too weak: {bits} bits supplied, at least {minBits} required"
  | packetNumber detail => s!"packet number not encodable: {detail}"
  | policy detail => s!"invalid signing policy: {detail}"
  | keyText detail => s!"malformed key encoding: {detail}"
  | signatureText detail => s!"malformed signature encoding: {detail}"
  | mismatch => "signature does not authenticate this packet"
  | internal detail => s!"internal error: {detail}"

/-- The stable number of a kind of error. -/
def code : SigningError → Nat
  | weakKey .. => 1001
  | policy _ => 1002
  | packetNumber _ => 2001
  | keyText _ => 2002
  | signatureText _ => 2003
  | mismatch => 3001
  | internal _ => 9000

/-- What a kind of error means. -/
def description : SigningError → String
  | weakKey .. => "signing key below minimum strength"
  | policy _ => "signing policy rejected"
  | packetNumber _ => "packet number outside 0..2^32"
  | keyText _ => "signing key is not valid base64"
  | signatureText _ => "signature is not valid base64"
  | mismatch => "signature verification failed"
  | internal _ => "internal signing error"

/-- Number and meaning together. -/
def codeText (e : SigningError) : String := s!"{e.code} ({e.description})"

end SigningError

/-- The packet number of a decimal text, as a step of signing. -/
def PacketNumber.ofText (s : String) : Except SigningError PacketNumber :=
  (parse s).mapError .ofNumber

/-- The packet number that a numeral stands for, as a step of signing. -/
def Numeral.resolve (n : Numeral) : Except SigningError PacketNumber :=
  n.packetNumber.mapError .ofNumber

end PacketAuth
