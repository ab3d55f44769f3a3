import PacketAuth.SigningError

/-! # Options

The options that the command line knows, where each may stand, and the forms an argument may have;
then the values that options have been given, each at most once, and the reasons why arguments are
not carried out. -/

namespace PacketAuth.CommandLine

/-- The options with a value. -/
inductive Setting where
  | hash
  | minKeyBits
  | mode
  | data
  | packetNumber
  | key
  | signature
deriving DecidableEq, Repr

namespace Setting

def all : List Setting := [hash, minKeyBits, mode, data, packetNumber, key, signature]

def name : Setting → String
  | hash => "hash"
  | minKeyBits => "min-key-bits"
  | mode => "mode"
  | data => "data"
  | packetNumber => "packet-number"
  | key => "key"
  | signature => "signature"

/-- An option as it is shown in a message. -/
def shown : Setting → String
  | hash => "--hash <HASH>"
  | minKeyBits => "--min-key-bits <MIN_KEY_BITS>"
  | mode => "--mode <MODE>"
  | data => "--data <DATA>"
  | packetNumber => "--packet-number <PACKET_NUMBER>"
  | key => "--key <KEY>"
  | signature => "--signature <SIGNATURE>"

end Setting

/-- Where arguments stand: before a command or after its name. -/
inductive Place where
  | top
  | prompt
  | sign
  | verify
  | policy
deriving DecidableEq, Repr

namespace Place

/-- The options that a place cannot do without. -/
def required : Place → List Setting
  | sign => [.data, .packetNumber, .key]
  | verify => [.data, .packetNumber, .key, .signature]
  | _ => []

/-- The options with a value that a place knows. -/
def settings (p : Place) : List Setting := [.hash, .minKeyBits, .mode] ++ p.required

/-- The place after the name of a command. -/
def ofName? : String → Option Place
  | "prompt" => some prompt
  | "sign" => some sign
  | "verify" => some verify
  | "policy" => some policy
  | _ => none

end Place

/-- A name with two hyphens in front. -/
inductive Long where
  | setting (x : Setting)
  | json
  | help
  | version
deriving DecidableEq, Repr

/-- The long option of a name in a place. -/
def long? (place : Place) (name : String) : Option Long :=
  if name = "help" then some .help
  else if name = "version" ∧ place = .top then some .version
  else if name = "json" ∧ place = .sign then some .json
  else (place.settings.find? fun x => x.name = name).map .setting

/-- An argument before a bare `--`. -/
inductive Argument where
  | plain (s : String)
  /-- The bare `--`. -/
  | separator
  | long (name : String) (value : Option String)
  | short (letters : List Char)
deriving DecidableEq, Repr

/-- An argument by its form. -/
def Argument.ofString (s : String) : Argument :=
  match s.toList with
  | ['-', '-'] => .separator
  | '-' :: '-' :: cs =>
    match cs.dropWhile (· ≠ '=') with
    | _ :: value => .long (String.ofList (cs.takeWhile (· ≠ '='))) (some (String.ofList value))
    | [] => .long (String.ofList cs) none
  | '-' :: c :: cs => .short (c :: cs)
  | _ => .plain s

/-! ### Option values -/

/-- What help is asked for: a place, or help itself. -/
inductive Topic where
  | place (p : Place)
  | help
deriving DecidableEq, Repr

/-- The topic of the name of a command. -/
def Topic.ofName? (s : String) : Option Topic :=
  if s = "help" then some help else (Place.ofName? s).map place

/-- Why arguments are not carried out as a command.  An option is named as it is shown. -/
inductive Stop where
  | help (t : Topic)
  | version
  | unknownArgument (argument : String)
  | unknownCommand (argument : String)
  | surplusValue (option value : String)
  | missingValue (option : String)
  | repeated (option : String)
  | missingOptions (options : List String)
  | badValue (value option why : String)
deriving DecidableEq, Repr

/-- The values that are settled. -/
structure Given where
  policy : Policy.Overlay := {}
  data : Option String := none
  packetNumber : Option String := none
  key : Option String := none
  signature : Option String := none
  json : Bool := false
deriving DecidableEq, Repr

namespace Given

/-- Whether an option has its value. -/
def has (g : Given) : Setting → Bool
  | .hash => g.policy.hash.isSome
  | .minKeyBits => g.policy.minKeyBits.isSome
  | .mode => g.policy.mode.isSome
  | .data => g.data.isSome
  | .packetNumber => g.packetNumber.isSome
  | .key => g.key.isSome
  | .signature => g.signature.isSome

/-- The least key length of a typed number. -/
def readBits (s : String) : Except String UInt32 :=
  match Decimal.readWithin 0x8000000000000000 0x7FFFFFFFFFFFFFFF s.toList with
  | .error fault => .error fault.message
  | .ok n =>
    match Decimal.word? n with
    | some w => .ok w
    | none => .error s!"{n} is not in 0..=4294967295"

/-- Why a typed name is refused. -/
def nameFault (f : Policy.Fault) : String := (SigningError.ofPolicy f).message

/-- Settle the value of an option. -/
def set (g : Given) (x : Setting) (value : String) : Except Stop Given :=
  let refuse (why : String) : Stop := .badValue value x.shown why
  if g.has x then .error (.repeated x.shown)
  else
    match x with
    | .hash => do
      let hash ← (Hash.parse value).mapError fun f => refuse (nameFault f)
      return { g with policy := { g.policy with hash := some hash } }
    | .minKeyBits => do
      let bits ← (readBits value).mapError refuse
      return { g with policy := { g.policy with minKeyBits := some bits } }
    | .mode => do
      let mode ← (Mode.parse value).mapError fun f => refuse (nameFault f)
      return { g with policy := { g.policy with mode := some mode } }
    | .data => .ok { g with data := some value }
    | .packetNumber => .ok { g with packetNumber := some value }
    | .key => .ok { g with key := some value }
    | .signature => .ok { g with signature := some value }

end Given

end PacketAuth.CommandLine
