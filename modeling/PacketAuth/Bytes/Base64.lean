import PacketAuth.Text.Characters
import PacketAuth.Text.Utf8

/-! # Base64 text

The standard alphabet with canonical padding.  Every byte string has exactly one text: reading
refuses missing or surplus padding, padding in the middle, a symbol outside the alphabet, and
symbols whose unused low bits are not zero.  `encode` and `decode` hold text as bytes, because a
fault is reported by byte position; `text` and `parse` are the same on strings, and `parse` takes
no notice of blanks at either end. -/

namespace PacketAuth.Base64

/-- Why a text is not base64. -/
inductive Fault where
  /-- A byte outside the alphabet, or padding where none may stand. -/
  | symbol (byte : UInt8) (offset : Nat)
  /-- A number of symbols that no byte string has. -/
  | length (symbols : Nat)
  /-- A last symbol with bits left over that are not zero. -/
  | lastSymbol (byte : UInt8) (offset : Nat)
  | padding
deriving DecidableEq, Repr

/-- The text of a fault. -/
def Fault.message : Fault → String
  | .symbol byte offset => s!"Invalid symbol {byte.toNat}, offset {offset}."
  | .length symbols => s!"Invalid input length: {symbols}"
  | .lastSymbol byte offset => s!"Invalid last symbol {byte.toNat}, offset {offset}."
  | .padding => "Invalid padding"

/-! ### The alphabet -/

/-- The padding symbol `=`. -/
def pad : UInt8 := 61

/-- The symbol of a six-bit number: `A-Z`, `a-z`, `0-9`, `+`, `/`. -/
def symbol (n : Nat) : UInt8 :=
  if n < 26 then UInt8.ofNat (n + 65)
  else if n < 52 then UInt8.ofNat (n - 26 + 97)
  else if n < 62 then UInt8.ofNat (n - 52 + 48)
  else if n = 62 then 43
  else 47

/-- The six-bit number of a symbol. -/
def sextet? (b : UInt8) : Option Nat :=
  let n := b.toNat
  if 65 ≤ n ∧ n ≤ 90 then some (n - 65)
  else if 97 ≤ n ∧ n ≤ 122 then some (n - 97 + 26)
  else if 48 ≤ n ∧ n ≤ 57 then some (n - 48 + 52)
  else if n = 43 then some 62
  else if n = 47 then some 63
  else none

/-! ### Writing -/

/-- Three bytes make four symbols; a shorter end is filled up with zero bits and padding. -/
def encode : Bytes → Bytes
  | a :: b :: c :: rest =>
    symbol (a.toNat / 4) :: symbol (a.toNat % 4 * 16 + b.toNat / 16) ::
      symbol (b.toNat % 16 * 4 + c.toNat / 64) :: symbol (c.toNat % 64) :: encode rest
  | [a, b] =>
    [symbol (a.toNat / 4), symbol (a.toNat % 4 * 16 + b.toNat / 16), symbol (b.toNat % 16 * 4), pad]
  | [a] => [symbol (a.toNat / 4), symbol (a.toNat % 4 * 16), pad, pad]
  | [] => []

/-- The base64 text of a byte string. -/
def text (bs : Bytes) : String := String.ofList ((encode bs).map fun b => Char.ofNat b.toNat)

/-! ### Reading -/

/-- The bytes that two to four six-bit numbers hold in full. -/
def join : List Nat → Bytes
  | [p, q] => [UInt8.ofNat (p * 4 + q / 16)]
  | [p, q, r] => [UInt8.ofNat (p * 4 + q / 16), UInt8.ofNat (q % 16 * 16 + r / 4)]
  | [p, q, r, s] =>
    [UInt8.ofNat (p * 4 + q / 16), UInt8.ofNat (q % 16 * 16 + r / 4), UInt8.ofNat (r % 4 * 64 + s)]
  | _ => []

/-- Whether the bits of the last number that fill no byte are zero. -/
def noLeftover : List Nat → Bool
  | [_, q] => q % 16 == 0
  | [_, _, r] => r % 4 == 0
  | _ => true

/-- The six-bit number of the symbol at `offset`. -/
def sextetAt (offset : Nat) (b : UInt8) : Except Fault Nat :=
  match sextet? b with
  | some n => .ok n
  | none => .error (.symbol b offset)

/-- The last group, whose `offset` is that of its first byte: the numbers read so far, how many
padding symbols followed them, and the bytes still to come.  `last` is the latest symbol. -/
def decodeEnd (offset : Nat) (numbers : List Nat) (pads : Nat) (last : UInt8) :
    Bytes → Except Fault Bytes
  | [] =>
    if numbers.length < 2 then .error (.length (offset + numbers.length))
    else if (numbers.length + pads) % 4 ≠ 0 then .error .padding
    else if noLeftover numbers then .ok (join numbers)
    else .error (.lastSymbol last (offset + numbers.length - 1))
  | b :: rest =>
    if b = pad then
      if numbers.length + pads < 2 then .error (.symbol b (offset + numbers.length + pads))
      else decodeEnd offset numbers (pads + 1) last rest
    else if pads ≠ 0 then .error (.symbol pad (offset + numbers.length))
    else do
      let n ← sextetAt (offset + numbers.length) b
      decodeEnd offset (numbers ++ [n]) 0 b rest

/-- Groups of four symbols, of which only the last may hold padding. -/
def decodeGroups (offset : Nat) : Bytes → Except Fault Bytes
  | a :: b :: c :: d :: e :: rest => do
    let p ← sextetAt offset a
    let q ← sextetAt (offset + 1) b
    let r ← sextetAt (offset + 2) c
    let s ← sextetAt (offset + 3) d
    let bytes ← decodeGroups (offset + 4) (e :: rest)
    return join [p, q, r, s] ++ bytes
  | [] => .ok []
  | bs => decodeEnd offset [] 0 pad bs

/-- A text one symbol longer than a whole number of groups cannot be base64; a stray byte at its
end is reported ahead of any other fault. -/
def strayEnd (bs : Bytes) : Option Fault :=
  if bs.length % 4 = 1 then
    bs.getLast?.bind fun b =>
      if b ≠ pad ∧ sextet? b = none then some (.symbol b (bs.length - 1)) else none
  else none

/-- The byte string that a base64 text stands for. -/
def decode (bs : Bytes) : Except Fault Bytes :=
  match strayEnd bs with
  | some fault => .error fault
  | none => decodeGroups 0 bs

/-- The byte string that a text stands for, blanks at its ends aside. -/
def parse (s : String) : Except Fault Bytes := decode (Utf8.encode (Text.trim s))

end PacketAuth.Base64
