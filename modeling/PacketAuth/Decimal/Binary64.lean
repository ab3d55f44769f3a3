/-! # Binary floating point of 64 bits

Magnitudes `m · 2^q` with fewer than 54 bits, reached from exact quotients by rounding to nearest
with ties to even.  All arithmetic is on natural numbers. -/

namespace PacketAuth

/-- The magnitude `mantissa · 2^exponent`. -/
structure Binary64 where
  mantissa : Nat
  exponent : Int
deriving DecidableEq, Repr

namespace Binary64

/-- The exponent of the smallest magnitudes. -/
def minExponent : Int := -1074

/-- The exponent of the largest magnitudes. -/
def maxExponent : Int := 971

/-- The value of the leading bit of a full mantissa, the 53rd. -/
def leading : Nat := 0x10000000000000

def zero : Binary64 := ⟨0, minExponent⟩

/-- The quotient as an integer, to nearest, ties to even. -/
def roundDiv (num den : Nat) : Nat :=
  let q := num / den
  let twice := 2 * (num % den)
  if twice < den ∨ twice = den ∧ q % 2 = 0 then q else q + 1

/-- The quotient `num / den` times `2^k` as a numerator and a denominator. -/
def shifted (num den : Nat) (k : Int) : Nat × Nat :=
  (num * Nat.pow 2 k.toNat, den * Nat.pow 2 (-k).toNat)

/-- The exponent of the largest power of two that a positive quotient reaches. -/
def log2 (num den : Nat) : Int :=
  let e : Int := (Nat.log2 num : Int) - Nat.log2 den
  let (n, d) := shifted num den (-e)
  if d ≤ n then e else e - 1

/-- The magnitude nearest to a quotient, or `none` beyond the largest. -/
def ofRatio (num den : Nat) : Option Binary64 :=
  if num = 0 then some zero
  else
    let q := max minExponent (log2 num den - 52)
    let (n, d) := shifted num den (-q)
    let m := roundDiv n d
    let r : Binary64 := if m = 2 * leading then ⟨leading, q + 1⟩ else ⟨m, q⟩
    if maxExponent < r.exponent then none else some r

/-- A magnitude as a numerator and a denominator. -/
def toRatio (x : Binary64) : Nat × Nat := shifted x.mantissa 1 x.exponent

/-- The magnitude nearest to `significand · 10^exponent`, or `none` beyond the largest.  Exponents
that decide the matter alone are not multiplied out. -/
def ofDecimal (significand : Nat) (exponent : Int) : Option Binary64 :=
  let order := (Nat.toDigits 10 significand).length + exponent
  if significand = 0 ∨ order < -330 then some zero
  else if 330 < order then none
  else ofRatio (significand * Nat.pow 10 exponent.toNat) (Nat.pow 10 (-exponent).toNat)

/-- The product with a power of ten, power and product each rounded. -/
def timesPowerOfTen (x : Binary64) (k : Nat) : Option Binary64 := do
  let (n, d) := x.toRatio
  let (n', d') := (← ofDecimal 1 k).toRatio
  ofRatio (n * n') (d * d')

/-- The quotient by a power of ten, power and quotient each rounded. -/
def overPowerOfTen (x : Binary64) (k : Nat) : Option Binary64 := do
  let (n, d) := x.toRatio
  let (n', d') := (← ofDecimal 1 k).toRatio
  ofRatio (n * d') (d * n')

end Binary64
end PacketAuth
