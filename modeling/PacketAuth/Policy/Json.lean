import PacketAuth.Decimal.Integer
import PacketAuth.Json.Basic
import PacketAuth.Mismatch
import PacketAuth.Policy.Basic

/-! # Policies as JSON

A policy is written as an object of three members.  It is read from an object with these members
in any order, other members being passed over, or from an array of the three values; a choice is
given by its exact name or by an object that holds `null` under that name. -/

namespace PacketAuth

namespace Json

/-- A value as it is named in a complaint. -/
def found : Json → Found
  | null => .null
  | boolean b => .boolean b
  | number (.integer n) => .integer n
  | number (.float negative x) => .float (Number.float negative x).text
  | string s => .string s
  | array _ => .sequence
  | object _ => .map

/-- The choice of a name. -/
def choiceOfName {α : Type} (choices : List (String × α)) (name : String) : Except Mismatch α :=
  match choices.lookup name with
  | some a => .ok a
  | none => .error (.choice name (choices.map (·.1)))

/-- The choice that a value names. -/
def choice {α : Type} (choices : List (String × α)) : Json → Except Mismatch α
  | string s => choiceOfName choices s
  | object [(name, content)] => do
    let a ← choiceOfName choices name
    match content with
    | null => return a
    | other => throw (.kind other.found "unit")
  | object _ => .error (.value .map "map with a single key")
  | other => .error (.kind other.found "string or map")

/-- An integer of 32 bits. -/
def word : Json → Except Mismatch UInt32
  | number (.integer n) =>
    match Decimal.word? n with
    | some w => .ok w
    | none => .error (.value (.integer n) "u32")
  | other => .error (.kind other.found "u32")

end Json

def Hash.choices : List (String × Hash) := Hash.all.map fun h => (h.name, h)

def Mode.choices : List (String × Mode) := Mode.all.map fun m => (m.name, m)

namespace Policy

/-- A policy as a JSON object. -/
def toJson (p : Policy) : Json :=
  .object [
    ("hash", .string p.hash.name),
    ("min_key_bits", .ofNat p.minKeyBits.toNat),
    ("mode", .string p.mode.name)]

/-- The JSON text of a policy. -/
def jsonText (p : Policy) : String := p.toJson.compact

/-- The fields read so far and one more member of the object. -/
def readMember (o : Overlay) : String × Json → Except Mismatch Overlay
  | ("hash", j) =>
    if o.hash.isSome then .error (.repeated "hash")
    else return { o with hash := some (← j.choice Hash.choices) }
  | ("min_key_bits", j) =>
    if o.minKeyBits.isSome then .error (.repeated "min_key_bits")
    else return { o with minKeyBits := some (← j.word) }
  | ("mode", j) =>
    if o.mode.isSome then .error (.repeated "mode")
    else return { o with mode := some (← j.choice Mode.choices) }
  | _ => .ok o

/-- The policy whose fields are all set. -/
def complete (o : Overlay) : Except Mismatch Policy :=
  match o.hash, o.minKeyBits, o.mode with
  | some hash, some bits, some mode => .ok ⟨hash, bits, mode⟩
  | none, _, _ => .error (.missing "hash")
  | _, none, _ => .error (.missing "min_key_bits")
  | _, _, none => .error (.missing "mode")

/-- The policy of an array. -/
def ofItems (items : List Json) : Except Mismatch Policy := do
  let shape := "struct SigningPolicy with 3 elements"
  let (j, rest) ← Mismatch.takeItem shape 0 items
  let hash ← j.choice Hash.choices
  let (j, rest) ← Mismatch.takeItem shape 1 rest
  let bits ← j.word
  let (j, rest) ← Mismatch.takeItem shape 2 rest
  let mode ← j.choice Mode.choices
  if rest.isEmpty then return ⟨hash, bits, mode⟩
  else throw (.length items.length "fewer elements in array")

/-- The policy that a JSON value stands for. -/
def ofJson : Json → Except Mismatch Policy
  | .object members => do complete (← members.foldlM readMember {})
  | .array items => ofItems items
  | other => .error (.kind other.found "struct SigningPolicy")

end Policy
end PacketAuth
