import PacketAuth.Bytes.Basic
import PacketAuth.Decimal.Integer
import PacketAuth.Text.Characters
import PacketAuth.Text.Shown

/-! # Packet numbers

A packet number is a counter of 32 bits, sent as four bytes, most significant first.  A caller may
hold it in another integer type, each of which has a check of its own (`Numeral.packetNumber`), or
as decimal text (`parse`). -/

namespace PacketAuth

/-- The place of a packet in its sequence. -/
structure PacketNumber where
  value : UInt32
deriving DecidableEq, Repr, Inhabited

namespace PacketNumber

/-- The bytes of a packet number on the wire. -/
def wireBytes : Nat := 4

/-- Why something is not a packet number. -/
inductive Fault where
  | notInteger (text : String)
  | negative (n : Int)
  | tooLarge (n : Int)
deriving DecidableEq, Repr

/-- The text of a fault. -/
def Fault.message : Fault → String
  | .notInteger text => s!"{Text.quote text} is not an integer"
  | .negative n => s!"{n} is negative"
  | .tooLarge n => s!"{n} does not fit in {wireBytes} bytes"

def zero : PacketNumber := ⟨0⟩

/-- The packet number of an integer from 0 to 2³² - 1. -/
def ofInt (n : Int) : Except Fault PacketNumber :=
  if n < 0 then .error (.negative n)
  else
    match Decimal.word? n with
    | some w => .ok ⟨w⟩
    | none => .error (.tooLarge n)

/-- The integers from `-readLimit` on and below `readLimit` fit in 128 bits with a sign. -/
def readLimit : Int := 0x80000000000000000000000000000000

/-- The packet number of a decimal text, blanks at its ends aside.  An integer that 128 bits with a
sign cannot hold is taken for no integer at all. -/
def parse (s : String) : Except Fault PacketNumber :=
  match Decimal.integer? (Text.trim s).toList with
  | some n =>
    if -readLimit ≤ n ∧ n < readLimit then ofInt n else .error (.notInteger (Text.trim s))
  | none => .error (.notInteger (Text.trim s))

/-- The packet number of a word of 64 bits, if the word fits in half of them. -/
def ofUnsigned64 (n : UInt64) : Except Fault PacketNumber :=
  if n < 0x100000000 then .ok ⟨n.toUInt32⟩ else .error (.tooLarge n.toNat)

/-- The packet number of a word of 64 bits with a sign.  One that is not negative is read by its
absolute value. -/
def ofSigned64 (n : Int64) : Except Fault PacketNumber :=
  if n < 0 then .error (.negative n.toInt) else ofUnsigned64 n.abs.toUInt64

/-- The decimal text of a packet number. -/
def text (n : PacketNumber) : String := toString n.value.toNat

/-- A packet number as it is shown to a programmer. -/
def describe (n : PacketNumber) : String := s!"PacketNumber({n.text})"

/-- A packet number on the wire. -/
def encode (n : PacketNumber) : Bytes := BigEndian.encode wireBytes n.value.toNat

/-- The packet number after this one, unless this one is the last. -/
def next? (n : PacketNumber) : Option PacketNumber :=
  if n.value.toNat + 1 < 0x100000000 then some ⟨n.value + 1⟩ else none

/-- The order of the sequence. -/
def le (m n : PacketNumber) : Bool := m.value ≤ n.value

/-- The given numbers in the order of the sequence. -/
def sort (ns : List PacketNumber) : List PacketNumber := ns.mergeSort le

end PacketNumber

/-- An integer in one of the types in which a caller may hold a packet number. -/
inductive Numeral where
  | packet (n : PacketNumber)
  | unsigned32 (n : UInt32)
  | unsigned64 (n : UInt64)
  | signed64 (n : Int64)
deriving DecidableEq

namespace Numeral

def toInt : Numeral → Int
  | packet n => n.value.toNat
  | unsigned32 n => n.toNat
  | unsigned64 n => n.toNat
  | signed64 n => n.toInt

/-- The packet number that a numeral stands for. -/
def packetNumber : Numeral → Except PacketNumber.Fault PacketNumber
  | packet n => .ok n
  | unsigned32 n => .ok ⟨n⟩
  | unsigned64 n => PacketNumber.ofUnsigned64 n
  | signed64 n => PacketNumber.ofSigned64 n

end Numeral
end PacketAuth
