import PacketAuth.Transcript

/-! # Work on request

Signing, verifying and showing the policy in force.  Requests to sign or verify hold texts as a user
gives them.  Their checks come in a fixed order: the data is 7-bit text, the key is base64, the key
is long enough, the number is a packet number.  The overview says where the policy comes from and
what it asks for. -/

namespace PacketAuth

/-- The data, if it is 7-bit text. -/
def asciiData (data : Bytes) : Except Failure Bytes :=
  if Utf8.isAscii data then .ok data else .error .notAscii

/-- What a request amounts to once it is checked. -/
structure Prepared where
  payload : Bytes
  number : PacketNumber
  key : Key

namespace Signer

/-- A step of signing as part of a command. -/
def lift {α : Type} : Except SigningError α → Except Failure α
  | .ok a => .ok a
  | .error e => .error (.signing e)

/-- Check the parts of a request. -/
def prepare (s : Signer) (data : Bytes) (number key : String) : Except Failure Prepared := do
  let payload ← asciiData data
  let key ← lift (Key.parse key)
  lift (s.policy.checkKey key)
  let n ← lift (PacketNumber.ofText number)
  return ⟨payload, n, key⟩

/-- Check a request and sign it. -/
def reportOn (s : Signer) (data : Bytes) (number key : String) : Except Failure Report := do
  let p ← s.prepare data number key
  lift (s.report p.payload (.packet p.number) p.key)

end Signer

/-- A request to sign a packet. -/
structure SignRequest where
  data : String
  number : String
  key : String
  /-- Whether the whole report is wanted. -/
  json : Bool
deriving DecidableEq, Repr

/-- The line that gives a signature. -/
def signatureLine (s : Signature) : String := s!"Packet signature: {s.text}\n"

namespace SignRequest

/-- Sign as requested. -/
def run (s : Signer) (r : SignRequest) : Except Failure Report :=
  s.reportOn (Utf8.encode r.data) r.number r.key

/-- What is printed of a report. -/
def output (r : SignRequest) (report : Report) : String :=
  if r.json then report.toJson.pretty ++ "\n" else signatureLine report.signature

/-- What signing as requested writes, or why it fails. -/
def transcript (s : Signer) (r : SignRequest) : Except Failure Transcript := do
  let report ← r.run s
  return (Log.ofReport report).map .log ++ [.out (r.output report)]

end SignRequest

/-- A request to check the signature of a packet. -/
structure VerifyRequest where
  data : String
  number : String
  key : String
  signature : String
deriving DecidableEq, Repr

/-- The outcome of checking a signature. -/
structure Verdict where
  valid : Bool
  /-- What signing the packet gives. -/
  expected : Report

namespace Verdict

/-- The line that gives a verdict. -/
def output (v : Verdict) : String :=
  if v.valid then "[OK] signature valid\n"
  else s!"[BAD] signature invalid: {SigningError.mismatch.message}\n"

end Verdict

namespace VerifyRequest

/-- Verify as requested. -/
def run (s : Signer) (r : VerifyRequest) : Except Failure Verdict := do
  let p ← s.prepare (Utf8.encode r.data) r.number r.key
  let signature ← Signer.lift (Signature.parse r.signature)
  let expected ← Signer.lift (s.report p.payload (.packet p.number) p.key)
  match s.verify p.payload (.packet p.number) p.key signature with
  | .ok () => return ⟨true, expected⟩
  | .error .mismatch => return ⟨false, expected⟩
  | .error e => throw (.signing e)

/-- What verifying as requested writes, or why it fails. -/
def transcript (s : Signer) (r : VerifyRequest) : Except Failure (Bool × Transcript) := do
  let v ← r.run s
  let doubt : Transcript := if v.valid then [] else [.log .mismatch]
  return (v.valid, (Log.ofReport v.expected).map .log ++ doubt ++ [.out v.output])

end VerifyRequest

/-! ### The policy in force -/

/-- What is said of the configuration file. -/
def Config.status (path : Option String) (file : ConfigFile) : String :=
  match path with
  | none => s!"ERROR: {Failure.noHome.message}"
  | some path =>
    match Config.read file with
    | .ok (some _) => s!"{path} (loaded)"
    | .ok none => "<none> (built-in defaults)"
    | .error fault => s!"ERROR: {fault.message path}"

namespace Signer

/-- The overview of a signer. -/
def overview (s : Signer) (path : Option String) (file : ConfigFile) : String :=
  "--- Config ---\n" ++
  s!"  config:        {Config.status path file}\n" ++
  "\n--- Policy ---\n" ++
  s!"  algorithm:     {s.policy.hash.macName}\n" ++
  s!"  output bytes:  {s.policy.hash.tagBytes}\n" ++
  s!"  min key bits:  {s.policy.minKeyBits.toNat} (floor {Policy.floorBits})\n" ++
  s!"  mode:          {s.policy.mode.name}\n"

end Signer

end PacketAuth
