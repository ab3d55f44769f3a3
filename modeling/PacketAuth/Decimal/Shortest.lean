import PacketAuth.Decimal.Binary64

/-! # Shortest decimal text

Of the decimal numerals that round to a given magnitude, the one with the fewest digits and, among
those, the nearest.  `Layout` says which of two equally near ones is taken and how the digits are
set out. -/

namespace PacketAuth.Decimal

/-- The numeral `0.d₁d₂d₃… · 10^point`. -/
structure Digits where
  digits : List Char
  point : Int
deriving DecidableEq, Repr

/-- Whether a quotient rounds to a magnitude.  The bounds lie half way to the neighbours, of which
the lower one is twice as near at a power of two; a bound itself rounds to the even mantissa. -/
def roundsTo (x : Binary64) (num den : Nat) : Bool :=
  let m := x.mantissa
  let nearBelow := m = Binary64.leading ∧ Binary64.minExponent < x.exponent
  let low := if nearBelow then 4 * m - 1 else 4 * m - 2
  let (n, d) := Binary64.shifted num den (2 - x.exponent)
  if m % 2 = 0 then low * d ≤ n && n ≤ (4 * m + 2) * d else low * d < n && n < (4 * m + 2) * d

/-- The quotient `10^k` times `c`. -/
def gridPoint (c : Nat) (k : Int) : Nat × Nat := (c * Nat.pow 10 k.toNat, Nat.pow 10 (-k).toNat)

/-- Which of two equally near numerals is taken. -/
inductive Tie where
  /-- The one with an even last digit. -/
  | even
  /-- The greater one. -/
  | up
deriving DecidableEq, Repr

/-- Whether the lower of two neighbours is the nearer one, from twice the distance to it and the
distance between them. -/
def Tie.lower (tie : Tie) (c twice step : Nat) : Bool :=
  if twice = step then tie = .even && c % 2 = 0 else twice < step

/-- The point next to a magnitude on the grid of the multiples of `10^k` that rounds to it. -/
def onGrid (tie : Tie) (x : Binary64) (k : Int) : Option Nat :=
  let (n, d) := x.toRatio
  let num := n * Nat.pow 10 (-k).toNat
  let den := d * Nat.pow 10 k.toNat
  let c := num / den
  let hits (c : Nat) : Bool := let (n', d') := gridPoint c k; roundsTo x n' d'
  match decide (0 < c) && hits c, hits (c + 1) with
  | true, true => some (if tie.lower c (2 * (num % den)) den then c else c + 1)
  | true, false => some c
  | false, true => some (c + 1)
  | false, false => none

/-- The exponent of the largest power of ten that a positive quotient reaches. -/
def log10 (num den : Nat) : Int :=
  let e := (Binary64.log2 num den * 30103) / 100000
  let (n, d) := gridPoint 1 (e + 1)
  if n * den ≤ num * d then e + 1 else e

/-- The first grid from `count` digits on, up to seventeen, with a point that rounds to `x`. -/
def search (tie : Tie) (x : Binary64) (top : Int) : (fuel count : Nat) → Digits
  | 0, _ => ⟨['0'], 1⟩
  | fuel + 1, count =>
    let k := top + 1 - count
    match onGrid tie x k with
    | some c =>
      let ds := Nat.toDigits 10 c
      ⟨ds, k + ds.length⟩
    | none => search tie x top fuel (count + 1)

/-- The shortest numeral of a magnitude, without zeros at its end. -/
def shortest (tie : Tie) (x : Binary64) : Digits :=
  if x.mantissa = 0 then ⟨['0'], 1⟩
  else
    let (n, d) := x.toRatio
    let r := search tie x (log10 n d) 17 1
    { r with digits := (r.digits.reverse.dropWhile (· = '0')).reverse }

/-! ### Setting out the digits -/

/-- A way to write numbers.  Those are written without an exponent whose point stands from `least`
to `most` places after the start of the digits. -/
structure Layout where
  tie : Tie
  least : Int
  most : Int

/-- Every numeral is written out. -/
def Layout.positional : Layout := ⟨.up, -400, 400⟩

/-- A numeral that is written out in full, always with a point. -/
def Digits.writtenOut (d : Digits) : List Char :=
  let n : Int := d.digits.length
  if d.point ≤ 0 then '0' :: '.' :: List.replicate (-d.point).toNat '0' ++ d.digits
  else if n ≤ d.point then d.digits ++ List.replicate (d.point - n).toNat '0' ++ ['.', '0']
  else d.digits.take d.point.toNat ++ '.' :: d.digits.drop d.point.toNat

/-- The exponent of a power of ten, always with its sign. -/
def exponentText (e : Int) : List Char :=
  'e' :: (if 0 ≤ e then '+' else '-') :: (toString e.natAbs).toList

/-- A numeral with one digit before the point and an exponent. -/
def Digits.scientific (d : Digits) : List Char :=
  let exponent := exponentText (d.point - 1)
  match d.digits with
  | first :: second :: rest => first :: '.' :: second :: rest ++ exponent
  | ds => ds ++ exponent

def Digits.render (l : Layout) (d : Digits) : List Char :=
  if l.least ≤ d.point ∧ d.point ≤ l.most then d.writtenOut else d.scientific

/-- The text of a magnitude with its sign. -/
def render (l : Layout) (negative : Bool) (x : Binary64) : String :=
  String.ofList ((if negative then ['-'] else []) ++ (shortest l.tie x).render l)

end PacketAuth.Decimal
