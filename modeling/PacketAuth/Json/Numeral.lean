import PacketAuth.Decimal.Integer
import PacketAuth.Json.Basic
import PacketAuth.Text.Characters

/-! # Reading JSON numbers

An integer that 64 bits can hold is read exactly.  Of any other number the leading digits that 64
bits can hold are rounded to a floating-point number first and then scaled by the power of ten. -/

namespace PacketAuth.Json

open Text (Reader)

/-- A numeral being read: the digits that 64 bits can hold, and the power of ten they stand at. -/
structure Numeral where
  significand : Nat
  exponent : Int

/-- Whether 64 bits can hold a number. -/
def fits (n : Nat) : Bool := n < 0x10000000000000000

/-- One more digit before the point.  A digit that does not fit counts as zero, like all that
follow it. -/
def Numeral.whole (x : Numeral) (d : Nat) : Numeral :=
  if x.exponent = 0 ∧ fits (10 * x.significand + d) then ⟨10 * x.significand + d, 0⟩
  else ⟨x.significand, x.exponent + 1⟩

/-- The digits behind the point, as many as fit. -/
def Numeral.fraction (x : Numeral) : List Nat → Numeral
  | [] => x
  | d :: ds =>
    if fits (10 * x.significand + d) then
      Numeral.fraction ⟨10 * x.significand + d, x.exponent - 1⟩ ds
    else x

/-- Division by a power of ten in steps that have a floating-point power. -/
def overPower (x : Binary64) (k : Nat) : Option Binary64 :=
  if k ≤ 308 then x.overPowerOfTen k
  else if x.mantissa = 0 then some x
  else (x.overPowerOfTen 308).bind fun y => overPower y (k - 308)
termination_by k

/-- The magnitude of a numeral, rounded digits first, or `none` beyond the largest. -/
def Numeral.magnitude (x : Numeral) : Option Binary64 := do
  let m ← Binary64.ofRatio x.significand 1
  if x.exponent < 0 then overPower m x.exponent.natAbs
  else if x.exponent ≤ 308 then m.timesPowerOfTen x.exponent.toNat
  else if m.mantissa = 0 then some m
  else none

/-- The digits at the front of a text. -/
def digits : List Char → List Nat × List Char
  | [] => ([], [])
  | c :: rest =>
    match Decimal.digit? c with
    | some d => let (ds, rest) := digits rest; (d :: ds, rest)
    | none => ([], c :: rest)

/-- Digits, the first of which is zero only if it is the last. -/
def wholeDigits (cs : List Char) : Option (List Nat × List Char) :=
  match digits cs with
  | ([], _) => none
  | (0 :: _ :: _, _) => none
  | r => some r

/-- The digits behind a point, if there is one. -/
def fractionDigits : Reader (List Nat)
  | '.' :: cs =>
    match digits cs with
    | ([], _) => none
    | r => some r
  | cs => some ([], cs)

/-- The exponent, if there is one. -/
def exponentPart (cs : List Char) : Option (Option Int × List Char) :=
  match cs with
  | [] => some (none, [])
  | e :: rest =>
    if e = 'e' ∨ e = 'E' then
      let (negative, rest) :=
        match rest with
        | '-' :: rest => (true, rest)
        | '+' :: rest => (false, rest)
        | rest => (false, rest)
      match digits rest with
      | ([], _) => none
      | (ds, rest) =>
        let n : Nat := ds.foldl (fun n d => 10 * n + d) 0
        some (some (if negative then -(n : Int) else n), rest)
    else some (none, cs)

/-- The number of a sign and the parts of a numeral. -/
def Number.ofParts (negative : Bool) (whole fraction : List Nat) (exponent : Option Int) :
    Option Number :=
  let x := whole.foldl Numeral.whole ⟨0, 0⟩
  if fraction = [] ∧ exponent = none ∧ x.exponent = 0 ∧
      (negative → 0 < x.significand ∧ x.significand ≤ 0x8000000000000000) then
    some (.integer (if negative then -x.significand else x.significand))
  else
    let x := x.fraction fraction
    (Numeral.magnitude ⟨x.significand, x.exponent + exponent.getD 0⟩).map (.float negative)

def readNumber (cs : List Char) : Option (Number × List Char) := do
  let (negative, cs) :=
    match cs with
    | '-' :: cs => (true, cs)
    | cs => (false, cs)
  let (whole, cs) ← wholeDigits cs
  let (fraction, cs) ← fractionDigits cs
  let (exponent, cs) ← exponentPart cs
  return (← Number.ofParts negative whole fraction exponent, cs)

end PacketAuth.Json
