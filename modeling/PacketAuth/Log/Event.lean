import PacketAuth.Failure
import PacketAuth.Signer

/-! # Log events

What the program has to tell about its work, as typed events.  No event holds a key. -/

namespace PacketAuth.Log

inductive Level where
  | error
  | warn
  | info
  | debug
  | trace
deriving DecidableEq, Repr

namespace Level

/-- More detail is a higher rank. -/
def rank : Level → Nat
  | error => 1
  | warn => 2
  | info => 3
  | debug => 4
  | trace => 5

def name : Level → String
  | error => "ERROR"
  | warn => "WARN"
  | info => "INFO"
  | debug => "DEBUG"
  | trace => "TRACE"

def all : List Level := [error, warn, info, debug, trace]

end Level

inductive Event where
  | effectivePolicy (p : Policy)
  /-- A digest that the tag does not cover. -/
  | payloadDigest (n : PacketNumber) (d : PayloadDigest)
  | packetSigned (n : PacketNumber) (hash : Hash) (mode : Mode)
  | mismatch
  | rejected (f : Failure)
  | finished (signed rejected : Nat)

namespace Event

def level : Event → Level
  | payloadDigest .. => .trace
  | rejected _ => .warn
  | _ => .debug

/-- The part of the program that an event belongs to. -/
def target : Event → String
  | effectivePolicy _ => "pktsig"
  | rejected _ => "pktsig::prompt"
  | finished .. => "pktsig::prompt"
  | _ => "pktsig_core::signer"

/-- What has happened. -/
def title : Event → String
  | effectivePolicy _ => "effective signing policy"
  | payloadDigest .. => "payload digest (unsigned)"
  | packetSigned .. => "packet signed"
  | mismatch => "signature mismatch"
  | rejected f =>
    if f.signing?.isSome then "request rejected" else s!"request rejected: {f.message}"
  | finished .. => "prompt loop finished"

/-- The particulars, by name. -/
def fields : Event → List (String × String)
  | effectivePolicy p => [("policy", p.describe)]
  | payloadDigest n d => [("packet", n.text), ("digest", d.text)]
  | packetSigned n hash mode =>
    [("packet", n.text), ("algorithm", Text.quote hash.macName), ("mode", mode.name)]
  | mismatch => []
  | rejected f => f.signing?.toList.map fun e => ("code", e.codeText)
  | finished signed refused => [("signed", toString signed), ("rejected", toString refused)]

/-- The names of all fields, of which the title is one. -/
def fieldNames (e : Event) : List String := "message" :: e.fields.map (·.1)

/-- The line of an event. -/
def line (e : Event) : String :=
  let particulars := e.fields.map fun (name, text) => s!" {name}={text}"
  s!"{e.level.name} {e.title}{String.join particulars}\n"

end Event

/-- The events of having signed a packet. -/
def ofReport (r : Report) : List Event :=
  (match r.mode with
    | .counter => [.payloadDigest r.number r.digest]
    | .payloadBound => []) ++ [.packetSigned r.number r.hash r.mode]

end PacketAuth.Log
