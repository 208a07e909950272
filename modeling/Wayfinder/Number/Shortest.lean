import Wayfinder.Number.Binary64

/-! The shortest decimal that reads back as a given double, and how it is laid out. The reals that
round to a double form an interval, closed when the mantissa is even. On the grid of decimals with
one digit, then two, and so on, the first grid with a point in the interval gives the digits; of two
such points the nearer to the double is taken, the even one on a tie. -/
namespace Wayfinder

structure Decimal where
  digits : Nat
  exponent : Int
deriving DecidableEq, Repr

namespace Decimal

def trimmed : Nat → Decimal → Decimal
  | 0, d => d
  | fuel + 1, d =>
    if d.digits % 10 = 0 && d.digits ≠ 0 then trimmed fuel ⟨d.digits / 10, d.exponent + 1⟩ else d

end Decimal

namespace Binary64

def leadingPlace (num den : Nat) : Int :=
  if den ≤ num then (Nat.toDigits 10 (num / den)).length - 1
  else
    let rec below : Nat → Nat → Int
      | 0, k => -k
      | fuel + 1, k => if den ≤ num * tenTo k then -k else below fuel (k + 1)
    below 400 1

structure Interval where
  lower : Nat
  centre : Nat
  upper : Nat
  denominator : Nat
  closed : Bool

def interval (x : Binary64) : Interval :=
  let below := if x.mantissa = 1 <<< 52 && x.exponent ≠ leastExponent then 1 else 2
  let e := x.exponent - 2
  let (unit, den) := if 0 ≤ e then (1 <<< e.toNat, 1) else (1, 1 <<< (-e).toNat)
  ⟨(4 * x.mantissa - below) * unit, 4 * x.mantissa * unit, (4 * x.mantissa + 2) * unit, den,
    x.mantissa % 2 = 0⟩

def Interval.contains (i : Interval) (num : Nat) : Bool :=
  if i.closed then i.lower ≤ num && num ≤ i.upper else i.lower < num && num < i.upper

def Interval.inPlace (i : Interval) (g : Int) : Interval :=
  if 0 ≤ g then { i with denominator := i.denominator * tenTo g.toNat }
  else
    let s := tenTo (-g).toNat
    { i with lower := i.lower * s, centre := i.centre * s, upper := i.upper * s }

/-- The point of the grid `10 ^ g` that reads back and is nearest to the double. -/
def Interval.gridPoint? (i : Interval) (g : Int) : Option Nat :=
  let i := i.inPlace g
  let d := i.centre / i.denominator
  let low := i.contains (d * i.denominator)
  let high := i.contains ((d + 1) * i.denominator)
  let r := 2 * (i.centre % i.denominator)
  if low && high then
    some (if r < i.denominator || (r == i.denominator && d % 2 == 0) then d else d + 1)
  else if low then some d
  else if high then some (d + 1)
  else none

def shortest (x : Binary64) : Decimal :=
  if x.mantissa = 0 then ⟨0, 0⟩
  else
    let i := x.interval
    let k := leadingPlace i.centre i.denominator
    let rec search : Nat → Int → Decimal
      | 0, g => ⟨i.centre * tenTo (-g).toNat / i.denominator, g⟩
      | fuel + 1, g =>
        match i.gridPoint? g with
        | some d => Decimal.trimmed 20 ⟨d, g⟩
        | none => search fuel (g - 1)
    search 17 k

end Binary64

/-- Between these places of the leading digit a decimal is written positionally. -/
structure DecimalLayout where
  leastPlace : Int
  greatestPlace : Int

def DecimalLayout.plain : DecimalLayout := ⟨-5, 15⟩

def zeros (n : Nat) : List Char := List.replicate n '0'

/-- At least one digit follows the point; an exponent always has its sign. -/
def DecimalLayout.render (layout : DecimalLayout) (d : Decimal) : List Char :=
  let ds := Nat.toDigits 10 d.digits
  let place : Int := d.exponent + ds.length - 1
  if layout.leastPlace ≤ place && place ≤ layout.greatestPlace then
    if place < 0 then ['0', '.'] ++ zeros (-place - 1).toNat ++ ds
    else
      let n := place.toNat + 1
      let fraction := ds.drop n
      ds.take n ++ zeros (n - ds.length) ++ '.' :: (if fraction.isEmpty then ['0'] else fraction)
  else
    let fraction := ds.drop 1
    ds.take 1 ++ (if fraction.isEmpty then [] else '.' :: fraction)
      ++ 'e' :: (if place < 0 then '-' else '+') :: Nat.toDigits 10 place.natAbs

def Binary64.chars (x : Binary64) : List Char :=
  let body :=
    if x.mantissa = 0 then ['0', '.', '0'] else DecimalLayout.plain.render x.shortest
  if x.negative then '-' :: body else body

def Binary64.tenths (x : Binary64) : List Char :=
  let (num, den) := x.ratio
  let n := roundHalfEven (num * 10) den
  Nat.toDigits 10 (n / 10) ++ '.' :: Nat.toDigits 10 (n % 10)

end Wayfinder
