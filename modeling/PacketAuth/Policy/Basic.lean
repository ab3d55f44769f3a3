import PacketAuth.Sha2
import PacketAuth.Text.Shown

/-! # Signing policies

A policy fixes the hash function of the tag, the least length of a key, and what the tag covers.
The least length may be raised above the floor of 128 bits and never lowered (`Policy.Valid`).  An
`Overlay` sets some of the fields and leaves the others to the policy beneath it.

A name that a person types is taken as it is meant: case and blanks at the ends do not count, a
hash may be written with hyphens anywhere and with `hmac` in front, a mode with `_` for `-`. -/

namespace PacketAuth

/-! ### Choices -/

/-- The hash functions that a tag may use. -/
inductive Hash where
  | sha256
  | sha384
  | sha512
deriving DecidableEq, Repr, Inhabited

namespace Hash

def all : List Hash := [sha256, sha384, sha512]

def sha2 : Hash → Sha2
  | sha256 => .sha256
  | sha384 => .sha384
  | sha512 => .sha512

/-- The bytes in a tag. -/
def tagBytes : Hash → Nat
  | sha256 => 32
  | sha384 => 48
  | sha512 => 64

theorem sha2_digestBytes (h : Hash) : h.sha2.digestBytes = h.tagBytes := by
  cases h <;> rfl

def name : Hash → String
  | sha256 => "sha256"
  | sha384 => "sha384"
  | sha512 => "sha512"

/-- The name of the authentication algorithm, as a report gives it. -/
def macName : Hash → String
  | sha256 => "HMAC-SHA256"
  | sha384 => "HMAC-SHA384"
  | sha512 => "HMAC-SHA512"

/-- The name as it is shown to a programmer. -/
def describe : Hash → String
  | sha256 => "Sha256"
  | sha384 => "Sha384"
  | sha512 => "Sha512"

end Hash

/-- What a tag covers. -/
inductive Mode where
  /-- The packet number alone. -/
  | counter
  /-- The digest of the payload, then the packet number. -/
  | payloadBound
deriving DecidableEq, Repr, Inhabited

namespace Mode

def all : List Mode := [counter, payloadBound]

def name : Mode → String
  | counter => "counter"
  | payloadBound => "payload-bound"

/-- The name as it is shown to a programmer. -/
def describe : Mode → String
  | counter => "Counter"
  | payloadBound => "PayloadBound"

end Mode

/-! ### Policies -/

/-- How packets are to be signed. -/
structure Policy where
  hash : Hash := .sha256
  minKeyBits : UInt32 := 128
  mode : Mode := .counter
deriving DecidableEq, Repr

namespace Policy

/-- The least key length that a policy may ask for, in bits. -/
def floorBits : Nat := 128

/-- Why a policy, or the name of one of its choices, is refused. -/
inductive Fault where
  | belowFloor (bits : UInt32)
  | partialByte (bits : UInt32)
  | unknownHash (text : String)
  | unknownMode (text : String)
deriving DecidableEq, Repr

/-- A key length that is a whole number of bytes and not below the floor. -/
def Valid (p : Policy) : Prop := floorBits ≤ p.minKeyBits.toNat ∧ 8 ∣ p.minKeyBits.toNat

instance (p : Policy) : Decidable p.Valid := inferInstanceAs (Decidable (_ ∧ _))

/-- The policy of a signer that is told nothing else. -/
def standard : Policy := {}

theorem standard_valid : standard.Valid := by decide

/-- Accepts the valid policies. -/
def validate (p : Policy) : Except Fault Unit :=
  if p.minKeyBits.toNat < floorBits then .error (.belowFloor p.minKeyBits)
  else if p.minKeyBits.toNat % 8 ≠ 0 then .error (.partialByte p.minKeyBits)
  else .ok ()

theorem validate_eq_ok_iff (p : Policy) : p.validate = .ok () ↔ p.Valid := by
  simp only [validate, Valid]
  split
  · simp; omega
  · split
    · simp; omega
    · simp; omega

/-- The least key length in bytes. -/
def minKeyBytes (p : Policy) : Nat := p.minKeyBits.toNat / 8

/-- A policy as it is shown to a programmer. -/
def describe (p : Policy) : String :=
  "SigningPolicy \x7b hash: " ++ p.hash.describe ++ ", min_key_bits: " ++
    toString p.minKeyBits.toNat ++ ", mode: " ++ p.mode.describe ++ " \x7d"

/-- Some fields of a policy. -/
structure Overlay where
  hash : Option Hash := none
  minKeyBits : Option UInt32 := none
  mode : Option Mode := none
deriving DecidableEq, Repr, Inhabited

/-- The fields of an overlay where it has them, those of the policy beneath elsewhere. -/
def Overlay.over (o : Overlay) (p : Policy) : Policy where
  hash := o.hash.getD p.hash
  minKeyBits := o.minKeyBits.getD p.minKeyBits
  mode := o.mode.getD p.mode

end Policy

/-! ### Names of choices -/

namespace Hash

/-- A typed name brought to the form of `Hash.name`, but for a leading `hmac`. -/
def normalize (s : String) : List Char :=
  ((Text.trim s).toList.map Char.toLower).filter (· ≠ '-')

/-- A name without `hmac` in front. -/
def dropMac : List Char → List Char
  | 'h' :: 'm' :: 'a' :: 'c' :: cs => cs
  | cs => cs

/-- The hash function of a typed name. -/
def parse (s : String) : Except Policy.Fault Hash :=
  match all.find? fun h => dropMac (normalize s) = h.name.toList with
  | some h => .ok h
  | none => .error (.unknownHash s)

end Hash

namespace Mode

/-- A typed name brought to the form of `Mode.name`. -/
def normalize (s : String) : List Char :=
  (Text.trim s).toList.map fun c => if c = '_' then '-' else c.toLower

/-- The names of a mode; the first is the one it is written by. -/
def names : Mode → List String
  | counter => ["counter"]
  | payloadBound => ["payload-bound", "payload"]

/-- The mode of a typed name. -/
def parse (s : String) : Except Policy.Fault Mode :=
  match all.find? fun m => m.names.any fun name => normalize s = name.toList with
  | some m => .ok m
  | none => .error (.unknownMode (String.ofList (normalize s)))

end Mode

/-- The text of a fault. -/
def Policy.Fault.message : Policy.Fault → String
  | .belowFloor bits => s!"min_key_bits {bits.toNat} is below the {Policy.floorBits}-bit floor"
  | .partialByte bits => s!"min_key_bits {bits.toNat} is not a multiple of 8"
  | .unknownHash text => s!"unknown hash {Text.quote text} (use sha256|sha384|sha512)"
  | .unknownMode text => s!"unknown signing mode {Text.quote text} (use counter|payload-bound)"

end PacketAuth
