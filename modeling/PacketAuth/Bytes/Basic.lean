/-! # Byte strings

Byte strings as base-256 numerals, most significant byte first, at a fixed width, and in
hexadecimal.  `BigEndian.encode` and `BigEndian.value` are inverse up to the width
(`BigEndian.value_encode`), so a counter that fits its field can be read back from the wire.
Hexadecimal text has two digits a byte, high half first; writing uses lowercase letters, reading
takes either case. -/

namespace PacketAuth

/-- A byte string. -/
abbrev Bytes := List UInt8

namespace BigEndian

/-- The number that a byte string denotes. -/
def value (bs : Bytes) : Nat := bs.foldl (fun n b => 256 * n + b.toNat) 0

/-- The `width` lowest base-256 digits of `n`. -/
def encode : (width n : Nat) → Bytes
  | 0, _ => []
  | width + 1, n => encode width (n / 256) ++ [UInt8.ofNat n]

@[simp] theorem length_encode (width n : Nat) : (encode width n).length = width := by
  induction width generalizing n with
  | zero => rfl
  | succ width ih => simp [encode, ih]

theorem value_append_singleton (bs : Bytes) (b : UInt8) :
    value (bs ++ [b]) = 256 * value bs + b.toNat := by
  simp [value]

/-- Encoding keeps the number modulo the capacity of the field. -/
theorem value_encode (width n : Nat) : value (encode width n) = n % Nat.pow 256 width := by
  induction width generalizing n with
  | zero => simp [encode, value, Nat.mod_one]
  | succ width ih =>
    have step : n % Nat.pow 256 (width + 1) = n % 256 + 256 * (n / 256 % Nat.pow 256 width) := by
      rw [show Nat.pow 256 (width + 1) = 256 * Nat.pow 256 width from Nat.mul_comm .., Nat.mod_mul]
    rw [encode, value_append_singleton, ih, step, UInt8.toNat_ofNat']
    omega

end BigEndian

namespace Hex

/-- The lowercase digit of a number below sixteen. -/
def digit (n : Nat) : Char :=
  Char.ofNat (if n < 10 then '0'.toNat + n else 'a'.toNat + (n - 10))

/-- The value of a digit of either case. -/
def digit? (c : Char) : Option Nat :=
  if '0' ≤ c ∧ c ≤ '9' then some (c.toNat - '0'.toNat)
  else if 'a' ≤ c ∧ c ≤ 'f' then some (c.toNat - 'a'.toNat + 10)
  else if 'A' ≤ c ∧ c ≤ 'F' then some (c.toNat - 'A'.toNat + 10)
  else none

def encodeByte (b : UInt8) : List Char := [digit (b.toNat / 16), digit (b.toNat % 16)]

/-- The hexadecimal text of a byte string. -/
def encode (bs : Bytes) : String := String.ofList (bs.flatMap encodeByte)

def decodeChars : List Char → Option Bytes
  | [] => some []
  | [_] => none
  | a :: b :: rest => do
    let high ← digit? a
    let low ← digit? b
    let bytes ← decodeChars rest
    return UInt8.ofNat (16 * high + low) :: bytes

/-- The byte string that a hexadecimal text stands for. -/
def decode? (text : String) : Option Bytes := decodeChars text.toList

/-- The digits of a number without leading zeros, as in a code point escape. -/
def ofNat (n : Nat) : List Char := Nat.toDigits 16 n

end Hex
end PacketAuth
