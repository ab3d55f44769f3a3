import PacketAuth.Command.Request

/-! # The prompt

Packets are signed in rounds of three questions: data, packet number and key.  A round that fails
is reported and the next one starts; the end of the input ends the prompt wherever it is.  `answer`
takes one line, so that questions can be put as the lines arrive; `run` takes a whole input. -/

namespace PacketAuth

/-- The rounds of a prompt so far. -/
structure Tally where
  signed : Nat := 0
  rejected : Nat := 0
deriving DecidableEq, Repr

/-- A prompt between two lines. -/
structure Prompt where
  /-- The answers of the current round. -/
  given : List Bytes := []
  tally : Tally := {}
deriving DecidableEq, Repr

namespace Prompt

/-! ### Lines -/

/-- A line whose bytes come newest first, without the carriage return before its end. -/
def dropReturn : Bytes → Bytes
  | b :: read => if b = 13 then read else b :: read
  | [] => []

/-- The lines of an input, the bytes of the current one being given newest first.  Only a line that
is ended by a line feed loses a carriage return. -/
def linesFrom (read : Bytes) : Bytes → List Bytes
  | [] => if read.isEmpty then [] else [read.reverse]
  | b :: rest =>
    if b = 10 then (dropReturn read).reverse :: linesFrom [] rest else linesFrom (b :: read) rest

def lines (input : Bytes) : List Bytes := linesFrom [] input

/-! ### Rounds -/

/-- Sign the packet of a round.  Bytes that are no text are read as replacement characters, which
neither a number nor a key may hold. -/
def signRound (s : Signer) (data number key : Bytes) : Except Failure Report :=
  s.reportOn data (Utf8.decodeLossy number) (Utf8.decodeLossy key)

/-- What the outcome of a round writes. -/
def outcome : Except Failure Report → Transcript
  | .ok report => (Log.ofReport report).map .log ++ [.out (signatureLine report.signature)]
  | .error f => [.log (.rejected f), .err s!"error: {f.message}\n"]

/-- The tally after a round. -/
def Tally.count (t : Tally) : Except Failure Report → Tally
  | .ok _ => { t with signed := t.signed + 1 }
  | .error _ => { t with rejected := t.rejected + 1 }

/-- The question that is put next. -/
def question (p : Prompt) : String :=
  match p.given with
  | [] => "Enter packet data to sign> "
  | [_] => "Enter the packet number.> "
  | _ => "Enter the signing key (base64 encoded)> "

/-- The prompt after a line, and what the line brings about. -/
def answer (s : Signer) (p : Prompt) (line : Bytes) : Prompt × Transcript :=
  match p.given with
  | [data, number] =>
    let r := signRound s data number line
    (⟨[], Tally.count p.tally r⟩, outcome r)
  | given => (⟨given ++ [line], p.tally⟩, [])

/-- What the end of the input writes. -/
def finish (p : Prompt) : Transcript := [.log (.finished p.tally.signed p.tally.rejected)]

/-- The last state of a prompt and what its lines write. -/
def runFrom (s : Signer) (p : Prompt) : List Bytes → Prompt × Transcript
  | [] => (p, .out p.question :: p.finish)
  | line :: rest =>
    let (q, written) := p.answer s line
    let (final, later) := runFrom s q rest
    (final, .out p.question :: written ++ later)

/-- The tally of a whole input and what it writes. -/
def run (s : Signer) (input : Bytes) : Tally × Transcript :=
  let (p, t) := runFrom s {} (lines input)
  (p.tally, t)

end Prompt
end PacketAuth
