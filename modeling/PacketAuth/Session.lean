import PacketAuth.Signer

/-! # Sessions

A signer in use: a policy, a key, a packet number, a payload and a signature, changed and combined
step by step.  A step that fails leaves the session as it was (`Session.after`). -/

namespace PacketAuth

structure Session where
  signer : Signer := .standard
  key : Key := ⟨[]⟩
  number : PacketNumber := .zero
  payload : Bytes := []
  signature : Signature := ⟨[]⟩

namespace Session

inductive Step where
  /-- Set some fields of the policy. -/
  | policy (changes : Policy.Overlay)
  | key (key : Key)
  | keyText (text : String)
  | checkKey
  | number (n : Numeral)
  | numberText (text : String)
  /-- Go on to the next packet number. -/
  | next
  | payload (bytes : Bytes)
  | sign
  | report
  | verify
  | signatureText (text : String)
  /-- Change bits of one byte of the signature. -/
  | alter (place : Nat) (bits : UInt8)
  /-- Shorten the signature to a length. -/
  | cut (length : Nat)
  /-- Lengthen the signature. -/
  | extend (bytes : Bytes)

/-- What a step answers. -/
inductive Answer where
  | policy (p : Policy)
  | key (k : Key)
  | accepted
  | number (n : PacketNumber)
  /-- The next packet number, if there is one. -/
  | next (n : Option PacketNumber)
  | digest (d : PayloadDigest)
  | signed (s : Signature)
  | report (r : Report)
  | signature (s : Signature)

/-- The session after a step that succeeds, and the answer. -/
def step (s : Session) : Step → Except SigningError (Session × Answer)
  | .policy changes => do
    let signer ← Signer.new (changes.over s.signer.policy)
    return ({ s with signer := signer }, .policy signer.policy)
  | .key key => .ok ({ s with key := key }, .key key)
  | .keyText text => do
    let key ← Key.parse text
    return ({ s with key := key }, .key key)
  | .checkKey => do
    s.signer.policy.checkKey s.key
    return (s, .accepted)
  | .number n => do
    let n ← n.resolve
    return ({ s with number := n }, .number n)
  | .numberText text => do
    let n ← PacketNumber.ofText text
    return ({ s with number := n }, .number n)
  | .next =>
    let n := s.number.next?
    .ok ({ s with number := n.getD s.number }, .next n)
  | .payload bytes => .ok ({ s with payload := bytes }, .digest (.of bytes))
  | .sign => do
    let signature ← s.signer.sign s.payload (.packet s.number) s.key
    return ({ s with signature := signature }, .signed signature)
  | .report => do return (s, .report (← s.signer.report s.payload (.packet s.number) s.key))
  | .verify => do
    s.signer.verify s.payload (.packet s.number) s.key s.signature
    return (s, .accepted)
  | .signatureText text => do
    let signature ← Signature.parse text
    return ({ s with signature := signature }, .signed signature)
  | .alter place bits =>
    let signature := ⟨s.signature.bytes.modify place (· ^^^ bits)⟩
    .ok ({ s with signature := signature }, .signature signature)
  | .cut length =>
    let signature := ⟨s.signature.bytes.take length⟩
    .ok ({ s with signature := signature }, .signature signature)
  | .extend bytes =>
    let signature := ⟨s.signature.bytes ++ bytes⟩
    .ok ({ s with signature := signature }, .signature signature)

/-- The session after a step, whether the step succeeds or not. -/
def after (s : Session) (step : Step) : Session :=
  match s.step step with
  | .ok (t, _) => t
  | .error _ => s

/-- The answers of a run of steps. -/
def run (s : Session) : List Step → List (Except SigningError Answer)
  | [] => []
  | x :: rest => (s.step x).map (·.2) :: (s.after x).run rest

end Session
end PacketAuth
