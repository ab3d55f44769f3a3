import PacketAuth.Bytes.Basic
import PacketAuth.Decimal.Integer
import PacketAuth.Text.Characters
import PacketAuth.Toml.Table

/-! # TOML numbers and dates

A value that starts with a sign or a digit is a date or a time if it begins like one, else a
floating-point number if a point or an exponent follows its digits, else an integer. -/

namespace PacketAuth.Toml

open Text (Reader expect)
open Decimal (digit?)

/-! ### Dates and times -/

/-- Digits of a number from `low` to `high`. -/
def ranged (count low high : Nat) (cs : List Char) : Option (Nat × List Char) := do
  let (n, rest) ← Text.exactly 10 digit? count 0 cs
  if low ≤ n ∧ n ≤ high then return (n, rest) else none

/-- The days of a month. -/
def monthDays (year month : Nat) : Nat :=
  if month = 2 then
    if year % 4 = 0 ∧ (year % 100 ≠ 0 ∨ year % 400 = 0) then 29 else 28
  else if month = 4 ∨ month = 6 ∨ month = 9 ∨ month = 11 then 30
  else 31

/-- Whether a text begins with four digits and a hyphen, like a date and no number. -/
def beginsDate (cs : List Char) : Bool :=
  match Text.exactly 10 digit? 4 0 cs with
  | some (_, '-' :: _) => true
  | _ => false

/-- The rest after a date. -/
def date (cs : List Char) : Option (List Char) := do
  let (year, rest) ← Text.exactly 10 digit? 4 0 cs
  let (month, rest) ← ranged 2 1 12 (← expect ['-'] rest)
  let (_, rest) ← ranged 2 1 (monthDays year month) (← expect ['-'] rest)
  return rest

/-- The rest after a fraction of a second, if there is one. -/
def secondFraction : List Char → List Char
  | '.' :: c :: cs => if (digit? c).isSome then cs.dropWhile fun c => (digit? c).isSome
      else '.' :: c :: cs
  | cs => cs

/-- The rest after a time of day. -/
def time (cs : List Char) : Option (List Char) := do
  let (_, rest) ← ranged 2 0 23 cs
  let (_, rest) ← ranged 2 0 59 (← expect [':'] rest)
  let (_, rest) ← ranged 2 0 60 (← expect [':'] rest)
  return secondFraction rest

/-- The rest after an offset from universal time, if there is one. -/
def offset (cs : List Char) : List Char :=
  let hours (rest : List Char) : Option (List Char) := do
    let (_, rest) ← ranged 2 0 23 rest
    let (_, rest) ← ranged 2 0 59 (← expect [':'] rest)
    return rest
  match cs with
  | 'Z' :: rest => rest
  | 'z' :: rest => rest
  | '+' :: rest => (hours rest).getD cs
  | '-' :: rest => (hours rest).getD cs
  | _ => cs

/-- The rest after the time of day that follows a date, if one does. -/
def timeAfterDate (cs : List Char) : List Char :=
  match cs with
  | c :: rest =>
    if c = 'T' ∨ c = 't' ∨ c = ' ' then ((time rest).map offset).getD cs else cs
  | [] => []

/-- The rest after a date with or without a time, or after a time alone. -/
def datetime (cs : List Char) : Option (List Char) :=
  if beginsDate cs then (date cs).map timeAfterDate else time cs

/-! ### Numerals -/

/-- Digits of a base after the first, among which single underscores may stand. -/
def moreDigits (digit? : Char → Option Nat) : (fuel : Nat) → Reader (List Nat)
  | 0, _ => none
  | _ + 1, [] => some ([], [])
  | fuel + 1, '_' :: cs =>
    match cs with
    | [] => none
    | c :: rest => do
      let d ← digit? c
      let (ds, rest) ← moreDigits digit? fuel rest
      return (d :: ds, rest)
  | fuel + 1, c :: rest =>
    match digit? c with
    | some d => do
      let (ds, rest) ← moreDigits digit? fuel rest
      return (d :: ds, rest)
    | none => some ([], c :: rest)

/-- One or more digits of a base. -/
def digits (digit? : Char → Option Nat) : Reader (List Nat)
  | [] => none
  | c :: rest => do
    let d ← digit? c
    let (ds, rest) ← moreDigits digit? (rest.length + 1) rest
    return (d :: ds, rest)

/-- Decimal digits that start with zero only if there are no others. -/
def wholeDigits : Reader (List Nat)
  | '0' :: rest => some ([0], rest)
  | cs => digits digit? cs

def sign : List Char → Bool × List Char
  | '-' :: cs => (true, cs)
  | '+' :: cs => (false, cs)
  | cs => (false, cs)

/-- The number that digits of a base stand for. -/
def ofDigits (base : Nat) (ds : List Nat) : Nat := ds.foldl (fun n d => base * n + d) 0

/-- An exponent, if there is one. -/
def exponent (cs : List Char) : Option (Option Int × List Char) :=
  match cs with
  | [] => some (none, [])
  | c :: rest =>
    if c = 'e' ∨ c = 'E' then do
      let (negative, rest) := sign rest
      let (ds, rest) ← digits digit? rest
      let n := ofDigits 10 ds
      return (some (if negative then -(n : Int) else n), rest)
    else some (none, cs)

/-- The digits after a point, if there is one. -/
def fraction : Reader (Option (List Nat))
  | '.' :: cs => do
    let (ds, rest) ← digits digit? cs
    return (some ds, rest)
  | cs => some (none, cs)

/-- An infinity or a number that is none, whose sign is read. -/
def special (negative : Bool) (cs : List Char) : Option (Float × List Char) :=
  match expect "inf".toList cs with
  | some rest => some (.infinite negative, rest)
  | none => (expect "nan".toList cs).map fun rest => (.nan, rest)

/-- The floating-point number of its parts.  Beyond the largest, only negative ones are taken. -/
def ofParts (negative : Bool) (significand : Nat) (exponent : Int) : Option Float :=
  match Binary64.ofDecimal significand exponent with
  | some x => some (.finite negative x)
  | none => if negative then some (.infinite true) else none

/-- An integer of 64 bits with a sign. -/
def bounded (n : Int) : Option Value :=
  if -0x8000000000000000 ≤ n ∧ n < 0x8000000000000000 then some (.integer n) else none

/-- A decimal number, of either type. -/
def decimal (cs : List Char) : Option (Value × List Char) := do
  let (negative, rest) := sign cs
  match special negative rest with
  | some (x, rest) => return (.float x, rest)
  | none =>
    let (whole, rest) ← wholeDigits rest
    let (behind, rest) ← fraction rest
    let (power, rest) ← exponent rest
    if behind = none ∧ power = none then
      let n := ofDigits 10 whole
      return (← bounded (if negative then -(n : Int) else n), rest)
    else
      let ds := behind.getD []
      let x ← ofParts negative (ofDigits 10 (whole ++ ds)) (power.getD 0 - ds.length)
      return (.float x, rest)

/-- An integer of a base other than ten, whose mark is read. -/
def based (base : Nat) (cs : List Char) : Option (Value × List Char) := do
  let digit? (c : Char) : Option Nat := (Hex.digit? c).filter (· < base)
  let (ds, rest) ← digits digit? cs
  return (← bounded (ofDigits base ds), rest)

/-- A number, a date or a time. -/
def numeric (cs : List Char) : Option (Value × List Char) :=
  if beginsDate cs then (datetime cs).map fun rest => (.datetime, rest)
  else
    match time cs with
    | some rest => some (.datetime, rest)
    | none =>
      match cs with
      | '0' :: 'x' :: rest => based 16 rest
      | '0' :: 'o' :: rest => based 8 rest
      | '0' :: 'b' :: rest => based 2 rest
      | _ => decimal cs

end PacketAuth.Toml
