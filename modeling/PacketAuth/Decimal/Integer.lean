/-! # Decimal integers

An optional sign and one or more ASCII digits, leading zeros allowed.  `integer?` reads integers of
any size; `readWithin` reads one of a fixed range and tells what is wrong at the first character
that spoils it. -/

namespace PacketAuth.Decimal

/-- The value of an ASCII digit. -/
def digit? (c : Char) : Option Nat :=
  if '0' ≤ c ∧ c ≤ '9' then some (c.toNat - '0'.toNat) else none

/-- The number whose leading digits have the value `n` and whose other digits follow. -/
def digitsFrom? (n : Nat) : List Char → Option Nat
  | [] => some n
  | c :: rest => (digit? c).bind fun d => digitsFrom? (10 * n + d) rest

/-- The value of one or more digits. -/
def natural? : List Char → Option Nat
  | [] => none
  | cs => digitsFrom? 0 cs

/-- The value of one or more digits after at most one sign. -/
def integer? : List Char → Option Int
  | '-' :: cs => (natural? cs).map fun n => -(n : Int)
  | '+' :: cs => (natural? cs).map fun n => (n : Int)
  | cs => (natural? cs).map fun n => (n : Int)

/-! ### Integers of a fixed range -/

/-- The word of 32 bits that an integer is, if it is one. -/
def word? (n : Int) : Option UInt32 :=
  if 0 ≤ n ∧ n < 0x100000000 then some (UInt32.ofNat n.toNat) else none

/-- Why a text is not an integer of a range. -/
inductive Fault where
  | empty
  | digit
  | tooLarge
  | tooSmall
deriving DecidableEq, Repr

/-- The text of a fault. -/
def Fault.message : Fault → String
  | .empty => "cannot parse integer from empty string"
  | .digit => "invalid digit found in string"
  | .tooLarge => "number too large to fit in target type"
  | .tooSmall => "number too small to fit in target type"

/-- Digits of a number that may not exceed `limit`; `tooMuch` is the fault if it does. -/
def magnitude (limit : Nat) (tooMuch : Fault) (n : Nat) : List Char → Except Fault Nat
  | [] => .ok n
  | c :: rest =>
    match digit? c with
    | none => .error .digit
    | some d =>
      if limit < 10 * n + d then .error tooMuch else magnitude limit tooMuch (10 * n + d) rest

/-- An integer from `-low` to `high`. -/
def readWithin (low high : Nat) : List Char → Except Fault Int
  | [] => .error .empty
  | ['-'] => .error .digit
  | ['+'] => .error .digit
  | '-' :: cs => (magnitude low .tooSmall 0 cs).map fun n => -(n : Int)
  | '+' :: cs => (magnitude high .tooLarge 0 cs).map fun n => (n : Int)
  | cs => (magnitude high .tooLarge 0 cs).map fun n => (n : Int)

end PacketAuth.Decimal
